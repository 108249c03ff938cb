import DockerfileLint.Toml.Inline

namespace DockerfileLint.Toml

open Reader

inductive Entry where
  | pair (pair : Pair)
  | header (key : List Text)
  | elementHeader (key : List Text)

def header : Reader Entry :=
  (do
    literal "[["
    let key ← dottedKey
    literal "]]"
    pure (.elementHeader key)) <|>
  (do
    literal "["
    let key ← dottedKey
    literal "]"
    pure (.header key))

/-- A line; one that is empty or only a comment says nothing. -/
def line : Reader (Option Entry) :=
  (do lineEnd; pure none) <|>
  (do comment; lineEnd <|> atEnd; pure none) <|>
  (do
    let entry ← header <|> Entry.pair <$> pair value
    lineRest
    pure (some entry))

/-- A byte order mark may stand before the first line. -/
def entries : Reader (List Entry) := do
  let _ ← optional (char (Char.ofNat 0xFEFF))
  blanks
  let lines ← many (line <* blanks)
  pure (lines.filterMap id)

/-- The entries taken in so far, and the path of the header above the next one. -/
structure Draft where
  root : Table
  current : List Text

/-- Takes in an entry, or refuses it where it would define a key twice. -/
def Draft.add (draft : Draft) : Entry → Option Draft
  | .pair pair => do
    let root ← Table.descend (Table.insertPair true pair.key pair.value) draft.current draft.root
    some { draft with root }
  | .header key => do
    let last ← key.getLast?
    let root ← Table.descend (Table.openTable last) key.dropLast draft.root
    some { root, current := key }
  | .elementHeader key => do
    let last ← key.getLast?
    let root ← Table.descend (Table.openElement last) key.dropLast draft.root
    some { root, current := key }

/-- The keys and values of a document, or nothing if it is malformed. -/
def read? (document : Text) : Option (List (Text × Value)) := do
  let entries ← onWhole? entries document
  let draft ← entries.foldlM Draft.add { root := [], current := [] }
  some (Node.entriesToValues draft.root)

end DockerfileLint.Toml
