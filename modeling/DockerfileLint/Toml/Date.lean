import DockerfileLint.Toml.Quoted

namespace DockerfileLint.Toml

open Reader

/-- A number of exactly so many digits within bounds. -/
def boundedNumber (count low high : Nat) : Reader Nat := do
  let number := ofDigits 10 (← exactly count Char.isDigit)
  guard (low ≤ number ∧ number ≤ high)
  pure number

def isLeapYear (year : Nat) : Bool := year % 4 == 0 && (year % 100 != 0 || year % 400 == 0)

def daysInMonth (year month : Nat) : Nat :=
  if month = 2 then (if isLeapYear year then 29 else 28)
  else if month ∈ [4, 6, 9, 11] then 30
  else 31

def date : Reader Unit := do
  let year ← boundedNumber 4 0 9999
  let _ ← char '-'
  let month ← boundedNumber 2 1 12
  let _ ← char '-'
  let _ ← boundedNumber 2 1 (daysInMonth year month)

/-- A time of day; second 60 is a leap second. -/
def time : Reader Unit := do
  let _ ← boundedNumber 2 0 23
  let _ ← char ':'
  let _ ← boundedNumber 2 0 59
  let _ ← char ':'
  let _ ← boundedNumber 2 0 60
  let _ ← optional (char '.' *> run1 Char.isDigit)

def offset : Reader Unit :=
  (do let _ ← charWhere fun c => c == 'Z' || c == 'z') <|>
  (do
    let _ ← charWhere fun c => c == '+' || c == '-'
    let _ ← boundedNumber 2 0 23
    let _ ← char ':'
    let _ ← boundedNumber 2 0 59)

/-- A date may stand alone or with a time, which may have an offset; a time may stand alone. -/
def dateTime : Reader Unit :=
  (do
    date
    let _ ← optional (charWhere (fun c => c == 'T' || c == 't' || c == ' ') *> time *>
      optional offset)) <|>
  time

end DockerfileLint.Toml
