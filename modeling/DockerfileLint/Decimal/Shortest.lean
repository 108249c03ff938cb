import DockerfileLint.Text.Natural

/-! The shortest decimal text of a double: the fewest digits that read back as the same double,
and of those the nearest to it.  The text is always positional, and a whole number has no point.
-/

namespace DockerfileLint.Decimal

/-- A positive double with the reals that round to it.  In units of `2 ^ exponent` the double is
`4 * significand`, the interval reaches from `4 * significand - below` to `4 * significand + 2`, and
its ends belong to it when `closed` holds. -/
structure RoundingInterval where
  significand : Nat
  exponent : Int
  below : Nat
  closed : Bool

/-- The interval of the positive finite double with these bits.  It is narrower below a power of
two, because the doubles there lie closer together. -/
def RoundingInterval.ofBits (bits : Nat) : RoundingInterval :=
  let field : Nat := bits / Nat.pow 2 52
  let fraction : Nat := bits % Nat.pow 2 52
  if field = 0 then
    { significand := fraction, exponent := -1076, below := 2, closed := fraction % 2 == 0 }
  else
    { significand := fraction + Nat.pow 2 52
      exponent := (field : Int) - 1077
      below := if fraction = 0 then 1 else 2
      closed := fraction % 2 == 0 }

namespace RoundingInterval

/-- `n * 10 ^ power` and `x * 2 ^ exponent` compare as `n * scales.2` and `x * scales.1`. -/
def scales (interval : RoundingInterval) (power : Int) : Nat × Nat :=
  (Nat.pow 2 interval.exponent.toNat * Nat.pow 10 (-power).toNat,
   Nat.pow 2 (-interval.exponent).toNat * Nat.pow 10 power.toNat)

/-- Whether `n * 10 ^ power` rounds to the double. -/
def holds (interval : RoundingInterval) (power : Int) (n : Nat) : Bool :=
  let (binary, decimal) := interval.scales power
  let low := (4 * interval.significand - interval.below) * binary
  let high := (4 * interval.significand + 2) * binary
  if interval.closed then low ≤ n * decimal && n * decimal ≤ high
  else low < n * decimal && n * decimal < high

/-- The multiple of `10 ^ power` that rounds to the double and is nearest to it, if there is one; a
tie goes up. -/
def onGrid? (interval : RoundingInterval) (power : Int) : Option Nat :=
  let (binary, decimal) := interval.scales power
  let value := 4 * interval.significand * binary
  let lower := value / decimal
  match interval.holds power lower, interval.holds power (lower + 1) with
  | true, true => some (if 2 * (value % decimal) < decimal then lower else lower + 1)
  | true, false => some lower
  | false, true => some (lower + 1)
  | false, false => none

/-- The least power of ten above the double, between `10 ^ -330` and `10 ^ 310`. -/
def magnitude (interval : RoundingInterval) : Int :=
  let isAbove (power : Int) : Bool :=
    let (binary, decimal) := interval.scales power
    4 * interval.significand * binary < decimal
  (((List.range 640).map fun (step : Nat) => (step : Int) - 330).find? isAbove).getD 310

/-- The fewest digits and the power of ten that they count.  The first grid has one digit too,
when the double rounds to a power of ten above it. -/
def shortest (interval : RoundingInterval) : Nat × Int :=
  let found := (List.range 18).findSome? fun (more : Nat) =>
    let power := interval.magnitude - (more : Int)
    (interval.onGrid? power).map fun n => (n, power)
  found.getD (0, 0)

end RoundingInterval

/-- The digits of `n`, with the point that `n * 10 ^ power` needs. -/
def positional (n : Nat) (power : Int) : Text :=
  let digits := Text.ofNat n
  if 0 ≤ power then digits ++ List.replicate power.toNat '0'
  else
    let places := (-power).toNat
    let padded := List.replicate (places + 1 - digits.length) '0' ++ digits
    padded.take (padded.length - places) ++ "." ++ padded.drop (padded.length - places)

def text (value : Float) : Text :=
  let bits := value.toBits.toNat
  let sign : Text := if bits < Nat.pow 2 63 then [] else "-"
  let magnitude := bits % Nat.pow 2 63
  if 0x7FF * Nat.pow 2 52 < magnitude then "NaN"
  else if magnitude = 0x7FF * Nat.pow 2 52 then sign ++ "inf"
  else if magnitude = 0 then sign ++ "0"
  else
    let (n, power) := (RoundingInterval.ofBits magnitude).shortest
    sign ++ positional n power

end DockerfileLint.Decimal
