import DockerfileLint.Decimal.Nearest
import DockerfileLint.Toml.Quoted
import DockerfileLint.Toml.Value

namespace DockerfileLint.Toml

open Reader

/-- Digits after the first one; a single underscore may stand between two digits. -/
def moreDigits (isDigit : Char → Bool) : Text → Text × Text
  | '_' :: c :: rest =>
    if isDigit c then
      let (digits, after) := moreDigits isDigit rest
      (c :: digits, after)
    else ([], '_' :: c :: rest)
  | c :: rest =>
    if isDigit c then
      let (digits, after) := moreDigits isDigit rest
      (c :: digits, after)
    else ([], c :: rest)
  | [] => ([], [])

def digits (isDigit : Char → Bool) : Reader Text := do
  let first ← charWhere isDigit
  let others ← fun text => some (moreDigits isDigit text)
  pure (first :: others)

/-- An optional sign; only a minus makes a number negative. -/
def sign : Reader Bool := do
  match ← optional (charWhere fun c => c == '+' || c == '-') with
  | some c => pure (c == '-')
  | none => pure false

/-- Decimal digits without a leading zero, or a single zero. -/
def wholeDigits : Reader Text := fun text =>
  match text with
  | '0' :: rest => some (['0'], rest)
  | _ => digits Char.isDigit text

def fits (number : Int) : Bool :=
  Int64.minValue.toInt ≤ number && number ≤ Int64.maxValue.toInt

def decimalInteger : Reader Int := do
  let negative ← sign
  let magnitude : Int := ofDigits 10 (← wholeDigits)
  let number := if negative then -magnitude else magnitude
  guard (fits number)
  pure number

/-- An integer after the mark of its base; it has no sign, and zeros may lead it. -/
def basedInteger (mark : Char) (base : Nat) : Reader Int := do
  literal ['0', mark]
  let number : Int := ofDigits base (← digits fun c => (hexDigit? c).any (· < base))
  guard (fits number)
  pure number

def integer : Reader Int :=
  basedInteger 'x' 16 <|> basedInteger 'o' 8 <|> basedInteger 'b' 2 <|> decimalInteger

def fraction : Reader Text := do
  let _ ← char '.'
  digits Char.isDigit

def exponent : Reader Int := do
  let _ ← charWhere fun c => c == 'e' || c == 'E'
  let negative ← sign
  let magnitude : Int := ofDigits 10 (← digits Char.isDigit)
  pure (if negative then -magnitude else magnitude)

/-- What makes a numeral a float: a fraction, an exponent, or both. -/
def floatTail : Reader (Text × Int) :=
  (do
    let places ← fraction
    let power ← optional exponent
    pure (places, power.getD 0)) <|>
  (do pure ([], ← exponent))

/-- A float is rounded to the nearest double.  One too large for a double is refused, but only if it
is positive. -/
def finiteFloat : Reader Float := do
  let negative ← sign
  let whole ← wholeDigits
  let (places, power) ← floatTail
  let number := Decimal.nearest negative (ofDigits 10 (whole ++ places)) (power - places.length)
  guard (negative ∨ number.isFinite)
  pure number

def specialFloat : Reader Float := do
  let negative ← sign
  let magnitude ← (do literal "inf"; pure (1.0 / 0.0)) <|> (do literal "nan"; pure (0.0 / 0.0))
  pure (if negative then -magnitude else magnitude)

def number : Reader Value :=
  (Value.float <$> (finiteFloat <|> specialFloat)) <|> (Value.integer <$> integer)

end DockerfileLint.Toml
