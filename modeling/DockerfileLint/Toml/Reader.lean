import DockerfileLint.Text.Basic

/-! Readers take a value off the front of a text, or fail and take nothing.  This module holds the
readers that all of TOML shares: single characters, runs of characters, repetition, blanks, line
ends and comments. -/

namespace DockerfileLint.Toml

abbrev Reader := StateT Text Option

namespace Reader

def charWhere (test : Char → Bool) : Reader Char
  | [] => none
  | c :: rest => if test c then some (c, rest) else none

def char (c : Char) : Reader Char := charWhere (· == c)

def run (test : Char → Bool) : Reader Text :=
  fun text => some (text.takeWhile test, text.dropWhile test)

def run1 (test : Char → Bool) : Reader Text := do
  let found ← run test
  guard (found ≠ [])
  pure found

def literal (expected : Text) : Reader Unit :=
  fun text => (expected.isPrefixOf? text).map fun rest => ((), rest)

def exactly (count : Nat) (test : Char → Bool) : Reader Text := fun text =>
  let found := text.take count
  if found.length = count ∧ found.all test then some (found, text.drop count) else none

/-- At most `fuel` items. -/
def manyWithin (fuel : Nat) (item : Reader α) : Reader (List α) :=
  match fuel with
  | 0 => pure []
  | fuel + 1 => (do
      let first ← item
      let others ← manyWithin fuel item
      pure (first :: others)) <|> pure []

/-- Items one after the other, as many as there are.  An item takes at least one character, so the
length of the text bounds their number. -/
def many (item : Reader α) : Reader (List α) := fun text => manyWithin text.length item text

/-- One item or more with a separator in each gap. -/
def separated1 (item : Reader α) (separator : Reader β) : Reader (List α) := do
  let first ← item
  let others ← many (separator *> item)
  pure (first :: others)

def separated (item : Reader α) (separator : Reader β) : Reader (List α) :=
  separated1 item separator <|> pure []

/-- The value of a reader that takes the whole text. -/
def onWhole? (reader : Reader α) (text : Text) : Option α :=
  match reader text with
  | some (value, []) => some value
  | _ => none

def atEnd : Reader Unit
  | [] => some ((), [])
  | _ :: _ => none

/-- Blanks within a line are spaces and tabs only. -/
def isInlineBlank (c : Char) : Bool := c == ' ' || c == '\t'

def blanks : Reader Unit := do
  let _ ← run isInlineBlank

/-- A line ends with a line feed that a carriage return may precede. -/
def lineEnd : Reader Unit := do
  let _ ← optional (char '\r')
  let _ ← char '\n'

/-- Control characters are not allowed in a document, except the tab. -/
def isPrintable (c : Char) : Bool := c == '\t' || (0x20 ≤ c.val && c.val ≠ 0x7F)

def comment : Reader Unit := do
  let _ ← char '#'
  let _ ← run isPrintable

/-- Blanks, line ends and comments, as they may stand between the values of an array. -/
def gap : Reader Unit := do
  blanks
  let _ ← many ((lineEnd <|> (comment *> lineEnd)) *> blanks)

/-- What may follow a pair or a header on its line. -/
def lineRest : Reader Unit := do
  blanks
  let _ ← optional comment
  lineEnd <|> atEnd

end Reader

end DockerfileLint.Toml
