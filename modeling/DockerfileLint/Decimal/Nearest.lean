namespace DockerfileLint.Decimal

/-- The whole number nearest to `num / den`, the even one of two. -/
def roundToEven (num den : Nat) : Nat :=
  let whole := num / den
  let twice := 2 * (num % den)
  if twice < den ∨ (twice = den ∧ whole % 2 = 0) then whole else whole + 1

def infinityBits : Nat := 0x7FF * Nat.pow 2 52

/-- The greatest exponent of two whose power is at most `num / den`, for a positive fraction. -/
def floorLog2 (num den : Nat) : Int :=
  let guess : Int := (Nat.log2 num : Int) - (Nat.log2 den : Int)
  if den * Nat.pow 2 guess.toNat ≤ num * Nat.pow 2 (-guess).toNat then guess else guess - 1

/-- The bits of the double nearest to `num / den`.  Its unit is a power of two that leaves 53
bits, but at least the smallest double; the exponent field then counts units, and a significand
that rounds up to 54 bits carries into it. -/
def nearestBits (num den : Nat) : Nat :=
  if num = 0 then 0
  else
    let unit : Int := max (floorLog2 num den - 52) (-1074)
    let significand := roundToEven (num * Nat.pow 2 (-unit).toNat) (den * Nat.pow 2 unit.toNat)
    min ((unit + 1074).toNat * Nat.pow 2 52 + significand) infinityBits

/-- The bits of the double nearest to `digits * 10 ^ exponent`.  Far outside the range of doubles
the power of ten is not computed. -/
def nearestBitsOfNumeral (digits : Nat) (exponent : Int) : Nat :=
  let length : Int := (Nat.toDigits 10 digits).length
  if digits = 0 ∨ exponent + length < -400 then 0
  else if 400 < exponent then infinityBits
  else nearestBits (digits * Nat.pow 10 exponent.toNat) (Nat.pow 10 (-exponent).toNat)

/-- The double nearest to `± digits * 10 ^ exponent`; zero keeps its sign. -/
def nearest (negative : Bool) (digits : Nat) (exponent : Int) : Float :=
  let signBit := if negative then Nat.pow 2 63 else 0
  Float.ofBits (UInt64.ofNat (signBit + nearestBitsOfNumeral digits exponent))

end DockerfileLint.Decimal
