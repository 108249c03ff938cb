import DockerfileLint.Toml.Date
import DockerfileLint.Toml.Number
import DockerfileLint.Toml.Table

namespace DockerfileLint.Toml

open Reader

/-- Bare keys need no quotes. -/
def isBareKeyChar (c : Char) : Bool :=
  ('a' ≤ c && c ≤ 'z') || ('A' ≤ c && c ≤ 'Z') || c.isDigit || c == '_' || c == '-'

def simpleKey : Reader Text := basicString <|> literalString <|> run1 isBareKeyChar

/-- Keys and values nest less deep than this. -/
def depthLimit : Nat := 80

/-- Parts of a key with dots between them, the outermost first. -/
def dottedKey : Reader (List Text) := do
  let parts ← separated1 (blanks *> simpleKey <* blanks) (char '.')
  guard (parts.length < depthLimit)
  pure parts

structure Pair where
  key : List Text
  value : Value

def pair (value : Reader Value) : Reader Pair := do
  let key ← dottedKey
  let _ ← char '='
  blanks
  let value ← value
  pure { key, value }

def tableOfPairs (pairs : List Pair) : Option Value := do
  let table ← pairs.foldlM (fun table pair => Table.insertPair true pair.key pair.value table) []
  some (.table (Node.entriesToValues table))

def scalar : Reader Value :=
  (Value.string <$> quoted) <|>
  (do dateTime; pure .dateTime) <|>
  number <|>
  (do literal "true"; pure (.boolean true)) <|>
  (do literal "false"; pure (.boolean false))

/-- Values between brackets, with a comma in each gap and perhaps one at the end. -/
def arrayOf (element : Reader Value) : Reader Value := do
  let _ ← char '['
  gap
  let elements ← separated (gap *> element <* gap) (char ',')
  if !elements.isEmpty then
    let _ ← optional (char ',')
  gap
  let _ ← char ']'
  pure (.array elements)

/-- Pairs between braces on one line, with a comma in each gap and none at the end. -/
def inlineTableOf (element : Reader Value) : Reader Value := do
  let _ ← char '\x7b'
  let pairs ← separated (pair element <* blanks) (char ',')
  blanks
  let _ ← char '\x7d'
  tableOfPairs pairs

/-- A value with at most so many arrays and tables around its scalars. -/
def valueWithin : Nat → Reader Value
  | 0 => scalar
  | depth + 1 => scalar <|> arrayOf (valueWithin depth) <|> inlineTableOf (valueWithin depth)

def value : Reader Value := valueWithin (depthLimit - 1)

end DockerfileLint.Toml
