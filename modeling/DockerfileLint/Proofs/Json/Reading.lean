import DockerfileLint.Text.Natural
import DockerfileLint.Toml.Quoted

/-! Reading JSON, all of it and not only what is printed here.  A text is cut into marks, strings
and words first; then the tokens are put together, with a stack of the arrays and objects still open.
The grammar is that of the standard: four blanks, nine escapes with pairs of surrogates, no control
characters in strings, no leading zeros, nothing behind the value. -/

namespace DockerfileLint

/-- A number as it is written: a whole number times a power of ten. -/
structure JsonNumber where
  significand : Int
  exponent : Int
deriving Repr, DecidableEq

/-- Any value of JSON.  Members keep their order, and names may come twice. -/
inductive JsonValue where
  | null
  | boolean (truth : Bool)
  | number (number : JsonNumber)
  | string (content : Text)
  | array (elements : List JsonValue)
  | object (members : List (Text × JsonValue))
deriving Repr

/-- A token as it stands in the text: a string without its quotes but with its escapes, and a word
for anything else that is no mark. -/
inductive JsonToken where
  | openArray
  | closeArray
  | openObject
  | closeObject
  | comma
  | colon
  | quoted (raw : Text)
  | word (raw : Text)
deriving Repr, DecidableEq

namespace JsonToken

def isBlank (c : Char) : Bool := c == ' ' || c == '\n' || c == '\r' || c == '\t'

def mark? : Char → Option JsonToken
  | '[' => some openArray
  | ']' => some closeArray
  | '\x7b' => some openObject
  | '\x7d' => some closeObject
  | ',' => some comma
  | ':' => some colon
  | _ => none

/-- Where a text is being cut: in a word, which may not have begun yet, in a string, or in a string
right behind a backslash. -/
inductive Place where
  | word (begun : Text)
  | quoted (begun : Text)
  | escaping (begun : Text)

def ofWord (begun : Text) : List JsonToken := if begun = [] then [] else [word begun]

/-- The tokens of a text; a string that is never closed has none. -/
def cut : Place → Text → Option (List JsonToken)
  | .word begun, [] => some (ofWord begun)
  | .quoted _, [] => none
  | .escaping _, [] => none
  | .word begun, c :: rest =>
    if c = '"' then (cut (.quoted []) rest).map (ofWord begun ++ ·)
    else if isBlank c then (cut (.word []) rest).map (ofWord begun ++ ·)
    else
      match mark? c with
      | some mark => (cut (.word []) rest).map (ofWord begun ++ mark :: ·)
      | none => cut (.word (begun ++ [c])) rest
  | .quoted begun, c :: rest =>
    if c = '"' then (cut (.word []) rest).map (quoted begun :: ·)
    else if c = '\\' then cut (.escaping (begun ++ [c])) rest
    else cut (.quoted (begun ++ [c])) rest
  | .escaping begun, c :: rest => cut (.quoted (begun ++ [c])) rest

end JsonToken

namespace JsonValue

/-- The character that one letter behind a backslash stands for. -/
def escape? : Char → Option Char
  | '"' => some '"'
  | '\\' => some '\\'
  | '/' => some '/'
  | 'b' => some '\x08'
  | 'f' => some '\x0c'
  | 'n' => some '\n'
  | 'r' => some '\r'
  | 't' => some '\t'
  | _ => none

def codeUnit? (digits : Text) : Option Nat :=
  if digits.length = 4 ∧ digits.all fun c => (Toml.hexDigit? c).isSome then
    some (Toml.ofDigits 16 digits)
  else none

def isHighSurrogate (unit : Nat) : Bool := 0xD800 ≤ unit && unit < 0xDC00

def isLowSurrogate (unit : Nat) : Bool := 0xDC00 ≤ unit && unit < 0xE000

/-- What a string holds, in characters and in code units. -/
inductive Piece where
  | plain (c : Char)
  | unit (unit : Nat)

/-- The pieces of a string; control characters and unknown escapes are refused. -/
def pieces? : Text → Option (List Piece)
  | [] => some []
  | '\\' :: 'u' :: a :: b :: c :: d :: rest =>
    (codeUnit? [a, b, c, d]).bind fun unit => (pieces? rest).map (.unit unit :: ·)
  | '\\' :: letter :: rest =>
    (escape? letter).bind fun plain => (pieces? rest).map (.plain plain :: ·)
  | c :: rest =>
    if c = '\\' ∨ c.toNat < 0x20 then none else (pieces? rest).map (.plain c :: ·)

/-- Two surrogates in the right order make one character, and a lone one makes none. -/
def assemble? : List Piece → Option Text
  | [] => some []
  | .plain c :: rest => (assemble? rest).map (c :: ·)
  | .unit high :: .unit low :: rest =>
    if isHighSurrogate high then
      if isLowSurrogate low then
        (assemble? rest).map
          (Char.ofNat (0x10000 + (high - 0xD800) * 0x400 + (low - 0xDC00)) :: ·)
      else none
    else if isLowSurrogate high then none
    else (assemble? (.unit low :: rest)).map (Char.ofNat high :: ·)
  | .unit unit :: rest =>
    if isHighSurrogate unit ∨ isLowSurrogate unit then none
    else (assemble? rest).map (Char.ofNat unit :: ·)

def content? (raw : Text) : Option Text := (pieces? raw).bind assemble?

/-- At least one digit, and a zero in front only if it is the only one. -/
def isWhole (digits : Text) : Bool :=
  decide (digits = ['0']) || decide (digits ≠ [] ∧ digits.head? ≠ some '0')

/-- The digits behind a point, if there is one, and what is left. -/
def places? : Text → Option (Text × Text)
  | '.' :: rest =>
    let places := rest.takeWhile Char.isDigit
    if places = [] then none else some (places, rest.dropWhile Char.isDigit)
  | text => some ([], text)

/-- The power of ten that is left to the end of a number. -/
def power? : Text → Option Int
  | [] => some 0
  | mark :: signed =>
    if mark = 'e' ∨ mark = 'E' then
      let unsigned :=
        if signed.head? = some '+' ∨ signed.head? = some '-' then signed.tail else signed
      (Text.digits? unsigned).map fun power => if signed.head? = some '-' then -power else power
    else none

def number? (word : Text) : Option JsonNumber :=
  let unsigned := if word.head? = some '-' then word.tail else word
  let whole := unsigned.takeWhile Char.isDigit
  if isWhole whole then
    (places? (unsigned.dropWhile Char.isDigit)).bind fun (places, rest) =>
      (power? rest).map fun power =>
        let magnitude : Int := Nat.ofDigitChars 10 (whole ++ places) 0
        { significand := if word.head? = some '-' then -magnitude else magnitude
          exponent := power - places.length }
  else none

def ofWord? (word : Text) : Option JsonValue :=
  if word = "null" then some .null
  else if word = "true" then some (.boolean true)
  else if word = "false" then some (.boolean false)
  else (number? word).map .number

/-- An array or object that is still open, with what it holds so far.  In an object the value for a
key is being read. -/
inductive Frame where
  | array (elements : List JsonValue)
  | object (members : List (Text × JsonValue)) (key : Text)

/-- What must come next, or may. -/
inductive Stage where
  | value
  | elementOrEnd
  | keyOrEnd
  | key (members : List (Text × JsonValue))
  | colon (members : List (Text × JsonValue)) (key : Text)
  /-- A value has been read; what follows it depends on what is open. -/
  | complete (value : JsonValue)

structure State where
  stage : Stage
  stack : List Frame

def begin? (stack : List Frame) : JsonToken → Option State
  | .openArray => some { stage := .elementOrEnd, stack }
  | .openObject => some { stage := .keyOrEnd, stack }
  | .quoted raw => (content? raw).map fun content => { stage := .complete (.string content), stack }
  | .word raw => (ofWord? raw).map fun value => { stage := .complete value, stack }
  | _ => none

def beginKey? (members : List (Text × JsonValue)) (stack : List Frame) : JsonToken → Option State
  | .quoted raw => (content? raw).map fun key => { stage := .colon members key, stack }
  | _ => none

def resume? (value : JsonValue) : List Frame → JsonToken → Option State
  | .array elements :: stack, .comma =>
    some { stage := .value, stack := .array (elements ++ [value]) :: stack }
  | .array elements :: stack, .closeArray =>
    some { stage := .complete (.array (elements ++ [value])), stack }
  | .object members key :: stack, .comma =>
    some { stage := .key (members ++ [(key, value)]), stack }
  | .object members key :: stack, .closeObject =>
    some { stage := .complete (.object (members ++ [(key, value)])), stack }
  | _, _ => none

def step? (state : State) (token : JsonToken) : Option State :=
  match state.stage with
  | .value => begin? state.stack token
  | .elementOrEnd =>
    if token = .closeArray then some { state with stage := .complete (.array []) }
    else begin? (.array [] :: state.stack) token
  | .keyOrEnd =>
    if token = .closeObject then some { state with stage := .complete (.object []) }
    else beginKey? [] state.stack token
  | .key members => beginKey? members state.stack token
  | .colon members key =>
    if token = .colon then
      some { stage := .value, stack := .object members key :: state.stack }
    else none
  | .complete value => resume? value state.stack token

def result? : State → Option JsonValue
  | { stage := .complete value, stack := [] } => some value
  | _ => none

def ofTokens? (tokens : List JsonToken) : Option JsonValue :=
  (tokens.foldlM step? { stage := .value, stack := [] }).bind result?

def read? (text : Text) : Option JsonValue := (JsonToken.cut (.word []) text).bind ofTokens?

end JsonValue

end DockerfileLint
