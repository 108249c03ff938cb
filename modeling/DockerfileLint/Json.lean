import DockerfileLint.Text.Natural

namespace DockerfileLint

/-- The values that reports are made of.  The members of an object keep their order. -/
inductive Json where
  | string (content : Text)
  | number (n : Nat)
  | array (elements : List Json)
  | object (members : List (Text × Json))

namespace Json

/-- A character inside a string.  Quotes, backslashes and control characters are escaped, and all
else stands for itself. -/
def escaped (c : Char) : Text :=
  match c with
  | '"' => "\\\""
  | '\\' => "\\\\"
  | '\x08' => "\\b"
  | '\x0c' => "\\f"
  | '\n' => "\\n"
  | '\r' => "\\r"
  | '\t' => "\\t"
  | _ =>
    if c.toNat < 0x20 then "\\u00" ++ [Nat.digitChar (c.toNat / 16), Nat.digitChar (c.toNat % 16)]
    else [c]

def quote (content : Text) : Text := '"' :: content.flatMap escaped ++ ['"']

def newLine (level : Nat) : Text := '\n' :: List.replicate (2 * level) ' '

/-- Items between brackets, each on a line of its own. -/
def enclose (opening closing : Char) (level : Nat) (items : List Text) : Text :=
  opening :: newLine (level + 1) ++ Text.joinWith (',' :: newLine (level + 1)) items ++
    newLine level ++ [closing]

mutual

/-- The text of a value whose first line is already indented to the given level. -/
def render (level : Nat) : Json → Text
  | .string content => quote content
  | .number n => Text.ofNat n
  | .array [] => "[]"
  | .array (first :: rest) => enclose '[' ']' level (renderElements (level + 1) (first :: rest))
  | .object [] => "\x7b\x7d"
  | .object (first :: rest) =>
    enclose '\x7b' '\x7d' level (renderMembers (level + 1) (first :: rest))

def renderElements (level : Nat) : List Json → List Text
  | [] => []
  | element :: rest => render level element :: renderElements level rest

def renderMembers (level : Nat) : List (Text × Json) → List Text
  | [] => []
  | (key, value) :: rest =>
    (quote key ++ ": " ++ render level value) :: renderMembers level rest

end

end Json

end DockerfileLint
