import DockerfileLint.Files.Access

/-! A file system held in memory.  It knows what lies in and below the working directory; above it
there are only directories, through which `..` and absolute paths lead nowhere else. -/

namespace DockerfileLint

/-- The contents of a file, or `none` for a directory. -/
abbrev FileNode := Option (List UInt8)

/-- Files and directories by the names that lead to them from the working directory.  A directory on
the way to one of them exists as well, and of two nodes at one place the later counts. -/
structure FileTree where
  nodes : List (List Text × FileNode)

/-- Where a path leads: to a directory above the working directory, or down from it. -/
inductive Place where
  | above
  | below (names : List Text)

namespace FileTree

def node? (tree : FileTree) (names : List Text) : Option FileNode :=
  match tree.nodes.reverse.lookup names with
  | some node => some node
  | none =>
    if names = [] ∨ tree.nodes.any fun entry => names.isPrefixOf entry.1 then some none else none

/-- The longest name in a directory, in bytes. -/
def longestName : Nat := 255

def longestPath : Nat := 4095

/-- One step along a path.  Only a directory has names in it, and it is asked for a name only if the
name is not too long. -/
def enter (tree : FileTree) (place : Place) (name : Text) : Except ReadFailure Place :=
  let stays : Bool := name.isEmpty || name == "."
  let isTooLong : Bool := longestName < Text.utf8Length name
  match place with
  | .above =>
    if stays ∨ name = ".." then .ok .above
    else if isTooLong then .error .nameTooLong
    else .error .missing
  | .below names =>
    match tree.node? names with
    | some (some _) => .error .notDirectory
    | none => .error .missing
    | some none =>
      if stays then .ok place
      else if name = ".." then .ok (if names = [] then .above else .below names.dropLast)
      else if isTooLong then .error .nameTooLong
      else if (tree.node? (names ++ [name])).isSome then .ok (.below (names ++ [name]))
      else .error .missing

/-- The node at a path.  The whole path is judged first, then each step along it. -/
def find (tree : FileTree) (path : Text) : Except ReadFailure FileNode :=
  if '\x00' ∈ path then .error .nulInPath
  else if path = [] then .error .missing
  else if longestPath < Text.utf8Length path then .error .nameTooLong
  else
    let start : Place := if path.head? = some '/' then .above else .below []
    match (path.splitOn '/').foldlM tree.enter start with
    | .error failure => .error failure
    | .ok .above => .ok none
    | .ok (.below names) =>
      match tree.node? names with
      | some node => .ok node
      | none => .error .missing

def access (tree : FileTree) : FileAccess :=
  { isPresent := fun path => (tree.find path).isOk
    read := fun path =>
      match tree.find path with
      | .error failure => .error failure
      | .ok none => .error .isDirectory
      | .ok (some bytes) => .ok bytes }

/-- A tree from paths relative to the working directory. -/
def ofPaths (files : List (Text × FileNode)) : FileTree :=
  { nodes := files.map fun (path, node) =>
      ((path.splitOn '/').filter fun name => !name.isEmpty && name != ".", node) }

end FileTree

end DockerfileLint
