import DockerfileLint.Toml.Reader

namespace DockerfileLint.Toml

open Reader

def hexDigit? (c : Char) : Option Nat :=
  if '0' ≤ c ∧ c ≤ '9' then some (c.toNat - '0'.toNat)
  else if 'a' ≤ c ∧ c ≤ 'f' then some (c.toNat - 'a'.toNat + 10)
  else if 'A' ≤ c ∧ c ≤ 'F' then some (c.toNat - 'A'.toNat + 10)
  else none

/-- The number that digits write in a base of at most sixteen. -/
def ofDigits (base : Nat) (digits : Text) : Nat :=
  digits.foldl (fun number c => base * number + (hexDigit? c).getD 0) 0

/-- A character by its number, in exactly so many digits; a surrogate is no character. -/
def numbered (count : Nat) : Reader Text := do
  let digits ← exactly count fun c => (hexDigit? c).isSome
  let code := ofDigits 16 digits
  guard code.isValidChar
  pure [Char.ofNat code]

def escape : Reader Text := do
  let _ ← char '\\'
  match ← charWhere fun _ => true with
  | 'b' => pure ['\x08']
  | 't' => pure ['\t']
  | 'n' => pure ['\n']
  | 'f' => pure ['\x0c']
  | 'r' => pure ['\r']
  | '"' => pure ['"']
  | '\\' => pure ['\\']
  | 'u' => numbered 4
  | 'U' => numbered 8
  | _ => failure

def isBasicPlain (c : Char) : Bool := isPrintable c && c != '"' && c != '\\'

def isLiteralPlain (c : Char) : Bool := isPrintable c && c != '\''

def basicString : Reader Text := do
  let _ ← char '"'
  let pieces ← many (run1 isBasicPlain <|> escape)
  let _ ← char '"'
  pure pieces.flatten

def literalString : Reader Text := do
  let _ ← char '\''
  let content ← run isLiteralPlain
  let _ ← char '\''
  pure content

/-- A line end within a string is a line feed, however it is written. -/
def lineFeed : Reader Text := do
  lineEnd
  pure ['\n']

/-- A backslash at the end of a line takes the blanks and line ends after it away. -/
def joinedLines : Reader Text := do
  let _ ← char '\\'
  blanks
  lineEnd
  let _ ← many (lineEnd <|> do let _ ← run1 isInlineBlank)
  pure []

/-- One or two quotes that do not close the string. -/
def innerQuotes (quote : Char) : Reader Text := do
  let quotes ← run1 (· == quote)
  guard (quotes.length ≤ 2)
  pure quotes

/-- Three quotes close the string; up to two more before them belong to it. -/
def closingQuotes (quote : Char) : Reader Text := do
  let quotes ← run (· == quote)
  guard (3 ≤ quotes.length ∧ quotes.length ≤ 5)
  pure (quotes.drop 3)

/-- A string between triple quotes; a line end right after the opening ones does not count. -/
def multiline (quote : Char) (piece : Reader Text) : Reader Text := do
  literal [quote, quote, quote]
  let _ ← optional lineEnd
  let pieces ← many (piece <|> lineFeed <|> innerQuotes quote)
  let closing ← closingQuotes quote
  pure (pieces.flatten ++ closing)

def quoted : Reader Text :=
  multiline '"' (run1 isBasicPlain <|> joinedLines <|> escape) <|>
  basicString <|>
  multiline '\'' (run1 isLiteralPlain) <|>
  literalString

end DockerfileLint.Toml
