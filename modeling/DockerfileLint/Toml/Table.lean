import DockerfileLint.Toml.Value

/-! Tables under construction.  A key may be given once; headers and dotted keys may add to a table
only as far as its origin allows. -/

namespace DockerfileLint.Toml

/-- How a table came to be, which decides what may still be added to it. -/
inductive TableOrigin where
  | header
  /-- It lies on the way to a longer header and may still get its own. -/
  | implied
  /-- It lies on the way of a dotted key, and only more dotted keys may add to it. -/
  | dotted
deriving DecidableEq

/-- A node of a document under construction.  A value is complete, also one that is a table. -/
inductive Node where
  | value (value : Value)
  | table (origin : TableOrigin) (entries : List (Text × Node))
  | tables (elements : List (List (Text × Node)))

abbrev Table := List (Text × Node)

namespace Table

def replace (table : Table) (key : Text) (node : Node) : Table :=
  table.map fun entry => if entry.1 = key then (key, node) else entry

/-- Adds a pair.  Its outer keys make tables or lead through tables made by dotted keys; `accepts`
tells whether the pair may end here. -/
def insertPair (accepts : Bool) : List Text → Value → Table → Option Table
  | [], _, _ => none
  | [key], value, table =>
    if accepts ∧ (table.lookup key).isNone then some (table ++ [(key, .value value)]) else none
  | key :: next :: rest, value, table =>
    match table.lookup key with
    | none => do
      let inner ← insertPair true (next :: rest) value []
      some (table ++ [(key, .table .dotted inner)])
    | some (.table origin inner) =>
      if origin = .header then none
      else do
        let inner ← insertPair (origin == .dotted) (next :: rest) value inner
        some (table.replace key (.table origin inner))
    | some _ => none

/-- Changes the table at the end of a path.  Tables that are missing on the way are implied by it,
and an array of tables leads to its last element. -/
def descend (change : Table → Option Table) : List Text → Table → Option Table
  | [], table => change table
  | key :: rest, table =>
    match table.lookup key with
    | none => do
      let inner ← descend change rest []
      some (table ++ [(key, .table .implied inner)])
    | some (.table origin inner) => do
      let inner ← descend change rest inner
      some (table.replace key (.table origin inner))
    | some (.tables elements) => do
      let last ← elements.getLast?
      let last ← descend change rest last
      some (table.replace key (.tables (elements.dropLast ++ [last])))
    | some (.value _) => none

/-- Opens the table of a header; one that is only implied so far keeps its entries. -/
def openTable (key : Text) (table : Table) : Option Table :=
  match table.lookup key with
  | none => some (table ++ [(key, .table .header [])])
  | some (.table .implied inner) => some (table.replace key (.table .header inner))
  | some _ => none

/-- Opens the next element of an array of tables. -/
def openElement (key : Text) (table : Table) : Option Table :=
  match table.lookup key with
  | none => some (table ++ [(key, .tables [[]])])
  | some (.tables elements) => some (table.replace key (.tables (elements ++ [[]])))
  | some _ => none

end Table

mutual

/-- The value that a finished node stands for. -/
def Node.toValue : Node → Value
  | .value content => content
  | .table _ entries => .table (Node.entriesToValues entries)
  | .tables elements => .array (Node.elementsToValues elements)

def Node.entriesToValues : List (Text × Node) → List (Text × Value)
  | [] => []
  | (key, node) :: rest => (key, node.toValue) :: Node.entriesToValues rest

def Node.elementsToValues : List (List (Text × Node)) → List Value
  | [] => []
  | entries :: rest => .table (Node.entriesToValues entries) :: Node.elementsToValues rest

end

end DockerfileLint.Toml
