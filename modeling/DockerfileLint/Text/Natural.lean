import DockerfileLint.Text.Basic

namespace DockerfileLint.Text

def ofNat (n : Nat) : Text := Nat.toDigits 10 n

/-- The number that the digits `0` to `9` write; at least one digit and nothing else. -/
def digits? (text : Text) : Option Nat :=
  if text ≠ [] ∧ text.all Char.isDigit then some (Nat.ofDigitChars 10 text 0) else none

/-- A count of 64 bits: digits after at most one plus sign, leading zeros allowed. -/
def count? (text : Text) : Option Nat :=
  let unsigned := if text.head? = some '+' then text.tail else text
  (digits? unsigned).filter (· < UInt64.size)

theorem digits?_ofNat (n : Nat) : digits? (ofNat n) = some n := by
  have digits (c : Char) (member : c ∈ Nat.toDigits 10 n) : c.isDigit = true :=
    Nat.isDigit_of_mem_toDigits (by decide) (by decide) member
  simpa [digits?, ofNat, Nat.ofDigitChars_toDigits] using digits

end DockerfileLint.Text
