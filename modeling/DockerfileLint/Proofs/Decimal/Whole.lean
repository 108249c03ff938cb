import DockerfileLint.Decimal.Nearest
import Mathlib

/-! Whole numbers as doubles: exact arithmetic rounds a number of 64 bits to the same double as
shifting with a round bit and a sticky bit does. -/

namespace DockerfileLint.Decimal

open Float.Model (Format UnpackedFloat totalExponent)
open Float.Model.UnpackedFloat

/-- A significand whose two bits below the unit tell how the rest of `num / den` compares with zero
and with one half. -/
structure StandsFor (shifted : ExtendedMantissa) (num den : Nat) : Prop where
  whole : shifted.mantissa = num / den
  half : shifted.roundBit = true ↔ den ≤ 2 * (num % den)
  rest : shifted.stickyBit = true ↔ 2 * (num % den) ≠ 0 ∧ 2 * (num % den) ≠ den

theorem standsFor_exact (num : Nat) : StandsFor ⟨num, false, false⟩ num 1 where
  whole := (Nat.div_one num).symm
  half := by simp [Nat.mod_one]
  rest := by simp [Nat.mod_one]

variable {shifted : ExtendedMantissa} {num den : Nat}

theorem StandsFor.shiftRightOne (positive : 0 < den) (stands : StandsFor shifted num den) :
    StandsFor shifted.shiftRightOne num (den * 2) := by
  have split : num % (den * 2) = num % den + den * (num / den % 2) := Nat.mod_mul
  have below : num % den < den := Nat.mod_lt num positive
  have whole := stands.whole
  rcases Nat.mod_two_eq_zero_or_one (num / den) with even | odd
  · rw [even, Nat.mul_zero, Nat.add_zero] at split
    refine ⟨?_, ?_, ?_⟩
    · rw [ExtendedMantissa.shiftRightOne, whole, Nat.div_div_eq_div_mul]
    · simp only [ExtendedMantissa.shiftRightOne, whole, even, split]
      simp only [bne_self_eq_false, Bool.false_eq_true, false_iff]
      omega
    · simp only [ExtendedMantissa.shiftRightOne, Bool.or_eq_true, stands.half, stands.rest, split]
      omega
  · rw [odd, Nat.mul_one] at split
    refine ⟨?_, ?_, ?_⟩
    · rw [ExtendedMantissa.shiftRightOne, whole, Nat.div_div_eq_div_mul]
    · simp only [ExtendedMantissa.shiftRightOne, whole, odd, split]
      simp only [Nat.reduceBNe, true_iff]
      omega
    · simp only [ExtendedMantissa.shiftRightOne, Bool.or_eq_true, stands.half, stands.rest, split]
      omega

theorem StandsFor.shiftRight (positive : 0 < den) (stands : StandsFor shifted num den)
    (count : Nat) : StandsFor (shifted >>> count) num (den * Nat.pow 2 count) := by
  induction count with
  | zero => simpa [HShiftRight.hShiftRight, Nat.repeat] using stands
  | succ count ih =>
    have step := ih.shiftRightOne (Nat.mul_pos positive (Nat.two_pow_pos count))
    rw [Nat.mul_assoc] at step
    exact step

/-- Ties go to the even neighbour in both ways of rounding. -/
theorem StandsFor.roundedMantissa_eq (positive : 0 < den) (stands : StandsFor shifted num den) :
    shifted.roundedMantissa = roundToEven num den := by
  obtain ⟨whole, half, rest⟩ := stands
  obtain ⟨mantissa, roundBit, stickyBit⟩ := shifted
  simp only at whole half rest
  subst whole
  simp only [ExtendedMantissa.roundedMantissa, roundToEven]
  cases roundBit with
  | false =>
    have under : 2 * (num % den) < den := by simpa using half
    rw [if_pos (.inl under)]
    cases stickyBit <;> rfl
  | true =>
    have reached : den ≤ 2 * (num % den) := half.mp rfl
    cases stickyBit with
    | true =>
      have differ : 2 * (num % den) ≠ den := (rest.mp rfl).2
      rw [if_neg (by omega)]
      rfl
    | false =>
      have tie : 2 * (num % den) = den := by
        simp only [Bool.false_eq_true, false_iff] at rest
        omega
      simp only [tie, Nat.lt_irrefl, false_or, true_and]
      show num / den + num / den % 2 = _
      split <;> omega

/-- The significand of a whole number, which takes 53 bits unless it rounds up to 54. -/
def significand (number : Nat) : Nat :=
  roundToEven (number * Nat.pow 2 (52 - number.log2)) (Nat.pow 2 (number.log2 - 52))

theorem div_le_roundToEven (num den : Nat) : num / den ≤ roundToEven num den := by
  simp only [roundToEven]
  split <;> omega

theorem roundToEven_le (num den : Nat) : roundToEven num den ≤ num / den + 1 := by
  simp only [roundToEven]
  split <;> omega

theorem log2_scaled {number : Nat} (positive : 0 < number) (shift : Nat) :
    (number * Nat.pow 2 shift).log2 = number.log2 + shift := by
  have least : Nat.pow 2 number.log2 ≤ number := Nat.log2_self_le (Nat.ne_of_gt positive)
  have most : number < Nat.pow 2 (number.log2 + 1) := Nat.lt_log2_self
  have unit : 0 < Nat.pow 2 shift := Nat.two_pow_pos shift
  apply (Nat.log2_eq_iff (Nat.ne_of_gt (Nat.mul_pos positive unit))).mpr
  constructor
  · calc Nat.pow 2 (number.log2 + shift)
      _ = Nat.pow 2 number.log2 * Nat.pow 2 shift := Nat.pow_add 2 _ _
      _ ≤ number * Nat.pow 2 shift := Nat.mul_le_mul_right _ least
  · calc number * Nat.pow 2 shift
      _ < Nat.pow 2 (number.log2 + 1) * Nat.pow 2 shift := Nat.mul_lt_mul_of_pos_right most unit
      _ = Nat.pow 2 (number.log2 + 1 + shift) := (Nat.pow_add 2 _ _).symm
      _ = Nat.pow 2 (number.log2 + shift + 1) := by rw [Nat.add_right_comm]

theorem scaled_bounds {number : Nat} (positive : 0 < number) :
    Nat.pow 2 52 * Nat.pow 2 (number.log2 - 52) ≤ number * Nat.pow 2 (52 - number.log2) ∧
      number * Nat.pow 2 (52 - number.log2) < Nat.pow 2 53 * Nat.pow 2 (number.log2 - 52) := by
  have nonzero : number * Nat.pow 2 (52 - number.log2) ≠ 0 :=
    Nat.ne_of_gt (Nat.mul_pos positive (Nat.two_pow_pos _))
  have bits : (number * Nat.pow 2 (52 - number.log2)).log2 = 52 + (number.log2 - 52) := by
    rw [log2_scaled positive]
    omega
  obtain ⟨low, high⟩ := (Nat.log2_eq_iff nonzero).mp bits
  rw [Nat.add_right_comm, Nat.pow_add] at high
  rw [Nat.pow_add] at low
  exact ⟨low, high⟩

theorem significand_bounds {number : Nat} (positive : 0 < number) :
    Nat.pow 2 52 ≤ significand number ∧ significand number ≤ Nat.pow 2 53 := by
  obtain ⟨low, high⟩ := scaled_bounds positive
  have unit : 0 < Nat.pow 2 (number.log2 - 52) := Nat.two_pow_pos _
  constructor
  · exact Nat.le_trans ((Nat.le_div_iff_mul_le unit).mpr low) (div_le_roundToEven _ _)
  · exact Nat.le_trans (roundToEven_le _ _) ((Nat.div_lt_iff_lt_mul unit).mpr high)

theorem targetExponent_eq (exponent : Int) :
    Format.binary64.targetExponent exponent = max (exponent - 53) (-1074) := rfl

theorem shiftToTargetExponent_eq (count : Nat) {mantissa : Nat} {exponent : Int}
    (accuracy : Accuracy)
    (amount : (Format.binary64.targetExponent (totalExponent mantissa exponent) - exponent).toNat =
      count) :
    shiftToTargetExponent Format.binary64 mantissa exponent accuracy =
      (ExtendedMantissa.ofMantissaAndAccuracy mantissa accuracy >>> count, exponent + count) := by
  rw [shiftToTargetExponent, shiftToExponent, amount]

/-- A significand of 53 bits stays, and the only one of 54 bits that rounding leaves is halved. -/
theorem shiftToTargetExponent_rounded {mantissa : Nat} {exponent : Int}
    (low : Nat.pow 2 52 ≤ mantissa) (high : mantissa ≤ Nat.pow 2 53) (least : -1074 ≤ exponent) :
    (mantissa < Nat.pow 2 53 ∧
      shiftToTargetExponent Format.binary64 mantissa exponent .exact =
        (⟨mantissa, false, false⟩, exponent)) ∨
    (mantissa = Nat.pow 2 53 ∧
      shiftToTargetExponent Format.binary64 mantissa exponent .exact =
        (⟨Nat.pow 2 52, false, false⟩, exponent + 1)) := by
  rcases Nat.lt_or_eq_of_le high with small | rfl
  · have bits : mantissa.log2 = 52 := by
      have nonzero : mantissa ≠ 0 := Nat.ne_of_gt (Nat.lt_of_lt_of_le (Nat.two_pow_pos 52) low)
      exact (Nat.log2_eq_iff nonzero).mpr ⟨low, small⟩
    refine .inl ⟨small, ?_⟩
    rw [shiftToTargetExponent_eq 0]
    · rw [Int.natCast_zero, Int.add_zero]
      rfl
    · rw [targetExponent_eq, totalExponent, bits]
      omega
  · refine .inr ⟨rfl, ?_⟩
    rw [shiftToTargetExponent_eq 1]
    · rfl
    · have bits : (Nat.pow 2 53).log2 = 53 := rfl
      rw [targetExponent_eq, totalExponent, bits]
      omega

theorem roundWithAccuracy_eq (sign : Sign) {mantissa kept : Nat} {exponent unit greater : Int}
    {accuracy : Accuracy} {shifted : ExtendedMantissa}
    (first : shiftToTargetExponent Format.binary64 mantissa exponent accuracy = (shifted, unit))
    (second : shiftToTargetExponent Format.binary64 shifted.roundedMantissa unit .exact =
      (⟨kept, false, false⟩, greater))
    (nonzero : 0 < kept) :
    roundWithAccuracy Format.binary64 sign mantissa exponent accuracy =
      .finite sign kept greater nonzero := by
  simp only [roundWithAccuracy, first, second, Nat.ne_of_gt nonzero, dite_false]

/-- Rounding a whole number shifts it to its 53 leading bits. -/
theorem shiftToTargetExponent_whole {number : Nat} (positive : 0 < number) :
    ∃ shifted : ExtendedMantissa, shifted.roundedMantissa = significand number ∧
      shiftToTargetExponent Format.binary64 (number * Nat.pow 2 (52 - number.log2))
          (-((52 - number.log2 : Nat) : Int)) .exact = (shifted, (number.log2 : Int) - 52) := by
  have amount : (Format.binary64.targetExponent
      (totalExponent (number * Nat.pow 2 (52 - number.log2)) (-((52 - number.log2 : Nat) : Int))) -
        -((52 - number.log2 : Nat) : Int)).toNat = number.log2 - 52 := by
    rw [targetExponent_eq, totalExponent, log2_scaled positive]
    omega
  have stands := (standsFor_exact (number * Nat.pow 2 (52 - number.log2))).shiftRight
    Nat.one_pos (number.log2 - 52)
  rw [Nat.one_mul] at stands
  refine ⟨_, stands.roundedMantissa_eq (Nat.two_pow_pos _), ?_⟩
  rw [shiftToTargetExponent_eq _ .exact amount]
  refine Prod.ext rfl ?_
  show -((52 - number.log2 : Nat) : Int) + (number.log2 - 52 : Nat) = _
  omega

/-- The double of a whole number, and its bits without the sign. -/
theorem round_whole (sign : Sign) {number : Nat} (positive : 0 < number) :
    ∃ mantissa exponent nonzero,
      UnpackedFloat.round Format.binary64 sign number 0 = .finite sign mantissa exponent nonzero ∧
        Nat.pow 2 52 ≤ mantissa ∧ mantissa < Nat.pow 2 53 ∧ -52 ≤ exponent ∧
        exponent ≤ number.log2 - 51 ∧
        (exponent + 1074) * Nat.pow 2 52 + mantissa =
          ((number.log2 : Int) + 1022) * Nat.pow 2 52 + significand number := by
  have target : Format.binary64.targetExponent (totalExponent number 0) = number.log2 - 52 := by
    rw [targetExponent_eq, totalExponent]
    omega
  have lowered : decreaseExponent number 0 (number.log2 - 52) =
      (number * Nat.pow 2 (52 - number.log2), -((52 - number.log2 : Nat) : Int)) := by
    have amount : (0 - ((number.log2 : Int) - 52)).toNat = 52 - number.log2 := by omega
    rw [decreaseExponent, amount, Nat.shiftLeft_eq, Int.zero_sub]
    rfl
  obtain ⟨low, high⟩ := significand_bounds positive
  obtain ⟨shifted, rounded, first⟩ := shiftToTargetExponent_whole positive
  have least : -1074 ≤ (number.log2 : Int) - 52 := by omega
  have hidden : Nat.pow 2 52 = 4503599627370496 := rfl
  have carry : Nat.pow 2 53 = 9007199254740992 := rfl
  rw [UnpackedFloat.round, target, lowered]
  rcases shiftToTargetExponent_rounded low high least with ⟨small, second⟩ | ⟨carried, second⟩
  · have nonzero : 0 < significand number := by omega
    rw [← rounded] at second
    refine ⟨_, _, rounded ▸ nonzero, roundWithAccuracy_eq sign first second _, ?_⟩
    rw [rounded, hidden, carry]
    omega
  · rw [← rounded] at second
    refine ⟨_, _, Nat.two_pow_pos 52, roundWithAccuracy_eq sign first second _, ?_⟩
    rw [carried, hidden, carry]
    omega

theorem toNat_append {high low : Nat} (front : BitVec high) (back : BitVec low) :
    (front ++ back).toNat = front.toNat * Nat.pow 2 low + back.toNat := by
  rw [BitVec.toNat_append, ← Nat.shiftLeft_add_eq_or_of_lt back.isLt, Nat.shiftLeft_eq]
  rfl

@[simp] theorem unpackSign_packComponents {format : Format} {sign : Sign} {exponent mantissa} :
    unpackSign (packComponents format sign exponent mantissa) = sign.toBitVec := by
  apply BitVec.eq_of_getLsbD_eq
  intro bit single
  obtain rfl : bit = 0 := by omega
  simp [unpackSign, packComponents, BitVec.getLsbD_append, BitVec.getElem_append]

@[simp] theorem ofBitVec_toBitVec (sign : Sign) : Sign.ofBitVec sign.toBitVec = sign := by
  cases sign <;> rfl

variable {sign : Sign} {mantissa : Nat} {exponent : Int}

/-- The bits of a double with a significand of exactly 53 bits: its leading bit is not kept. -/
theorem pack_finite (low : Nat.pow 2 52 ≤ mantissa) (high : mantissa < Nat.pow 2 53)
    (greatest : exponent ≤ 971) (nonzero : 0 < mantissa) :
    pack Format.binary64 (.finite sign mantissa exponent nonzero) =
      packComponents Format.binary64 sign (BitVec.ofNat _ (exponent + 1075).toNat)
        (BitVec.ofNat _ mantissa) := by
  have bits : mantissa.log2 = 52 := (Nat.log2_eq_iff (Nat.ne_of_gt nonzero)).mpr ⟨low, high⟩
  have biased : (exponent + (Format.binary64.exponentBias : Nat) +
      (Format.binary64.mantissaBitsWithoutImplicit : Nat)).toNat = (exponent + 1075).toNat := by
    show (exponent + 1023 + 52).toNat = _
    omega
  have fits : ¬2048 ≤ (exponent + 1075).toNat + 1 := by omega
  simp only [pack, biased, bits]
  rw [if_neg fits]
  rfl

theorem toNat_exponentField (greatest : exponent ≤ 971) :
    (BitVec.ofNat 11 (exponent + 1075).toNat).toNat = (exponent + 1075).toNat :=
  Nat.mod_eq_of_lt (by show _ < 2048; omega)

theorem toNat_significandField (mantissa : Nat) :
    (BitVec.ofNat 52 mantissa).toNat = mantissa % 4503599627370496 :=
  BitVec.toNat_ofNat mantissa 52

theorem unpack_pack_finite (low : Nat.pow 2 52 ≤ mantissa) (high : mantissa < Nat.pow 2 53)
    (least : -1074 ≤ exponent) (greatest : exponent ≤ 971) (nonzero : 0 < mantissa) :
    unpack Format.binary64 (pack Format.binary64 (.finite sign mantissa exponent nonzero)) =
      .finite sign mantissa exponent nonzero := by
  have field := toNat_exponentField greatest
  have normal : BitVec.ofNat 11 (exponent + 1075).toNat ≠ 0#11 := by
    intro zero
    have same := congrArg BitVec.toNat zero
    rw [field] at same
    simp at same
    omega
  have finite : BitVec.ofNat 11 (exponent + 1075).toNat ≠ -1#11 := by
    intro ones
    have same := congrArg BitVec.toNat ones
    rw [field] at same
    simp at same
    omega
  have whole : (1#1 ++ BitVec.ofNat 52 mantissa).toNat = mantissa := by
    have hidden : Nat.pow 2 52 = 4503599627370496 := rfl
    have carry : Nat.pow 2 53 = 9007199254740992 := rfl
    rw [toNat_append, toNat_significandField]
    show 1 * Nat.pow 2 52 + _ = _
    omega
  rw [pack_finite low high greatest nonzero, unpack]
  simp only [unpackMantissa_packComponents, unpackExponent_packComponents,
    unpackSign_packComponents, ofBitVec_toBitVec]
  rw [if_neg finite, if_neg normal]
  congr 1
  rw [field]
  show ((exponent + 1075).toNat : Int) - (1023 + 52) = exponent
  omega

theorem toNat_pack_finite (sign : Sign) (low : Nat.pow 2 52 ≤ mantissa)
    (high : mantissa < Nat.pow 2 53) (least : -1074 ≤ exponent) (greatest : exponent ≤ 971)
    (nonzero : 0 < mantissa) :
    ((pack Format.binary64 (.finite sign mantissa exponent nonzero)).toNat : Int) =
      sign.toBitVec.toNat * Nat.pow 2 63 + ((exponent + 1074) * Nat.pow 2 52 + mantissa) := by
  have hidden : Nat.pow 2 52 = 4503599627370496 := rfl
  have carry : Nat.pow 2 53 = 9007199254740992 := rfl
  rw [pack_finite low high greatest nonzero, packComponents, toNat_append, toNat_append]
  rw [toNat_exponentField greatest, toNat_significandField]
  show (((sign.toBitVec.toNat * 2048 + _) * 4503599627370496 + _ : Nat) : Int) =
    sign.toBitVec.toNat * 9223372036854775808 + (_ * 4503599627370496 + _)
  omega

theorem floorLog2_whole {number : Nat} (positive : 0 < number) :
    floorLog2 number 1 = number.log2 := by
  have least : Nat.pow 2 number.log2 ≤ number := Nat.log2_self_le (Nat.ne_of_gt positive)
  have guess : (number.log2 : Int) - (Nat.log2 1 : Nat) = number.log2 := Int.sub_zero _
  have up : (-(number.log2 : Int)).toNat = 0 := by omega
  rw [floorLog2, guess, up, Int.toNat_natCast, Nat.one_mul]
  exact if_pos (Nat.le_trans least (Nat.le_of_eq (Nat.mul_one number).symm))

/-- A number of 64 bits is far below the greatest double. -/
theorem nearestBits_whole {number : Nat} (positive : 0 < number) (fits : number < UInt64.size) :
    (nearestBits number 1 : Int) =
      ((number.log2 : Int) + 1022) * Nat.pow 2 52 + significand number := by
  have digits : number.log2 < 64 := (Nat.log2_lt (Nat.ne_of_gt positive)).mpr fits
  have unit : max ((number.log2 : Int) - 52) (-1074) = number.log2 - 52 := by omega
  have up : (-((number.log2 : Int) - 52)).toNat = 52 - number.log2 := by omega
  have down : ((number.log2 : Int) - 52).toNat = number.log2 - 52 := by omega
  have field : ((number.log2 : Int) - 52 + 1074).toNat = number.log2 + 1022 := by omega
  obtain ⟨low, high⟩ := significand_bounds positive
  simp only [nearestBits, Nat.ne_of_gt positive, if_false, floorLog2_whole positive, unit, up, down,
    field, Nat.one_mul]
  rw [← significand, Nat.min_eq_left]
  · rfl
  · show _ * 4503599627370496 + _ ≤ 2047 * 4503599627370496
    have carry : Nat.pow 2 53 = 9007199254740992 := rfl
    omega

theorem nearestBitsOfNumeral_whole {number : Nat} (positive : 0 < number) :
    nearestBitsOfNumeral number 0 = nearestBits number 1 := by
  have present : ¬(number = 0 ∨ (0 : Int) + ((Nat.toDigits 10 number).length : Int) < -400) := by
    omega
  rw [nearestBitsOfNumeral]
  simp only [present, if_false]
  rw [if_neg (by decide)]
  congr 1
  exact Nat.mul_one number

def signOf (negative : Bool) : Sign := if negative then .negative else .positive

/-- A whole number is read as the double that it is converted to. -/
theorem nearest_whole (negative : Bool) {number : Nat} (positive : 0 < number)
    (fits : number < UInt64.size) :
    ∃ mantissa exponent nonzero,
      nearest negative number 0 =
        .ofModel (.pack (.finite (signOf negative) mantissa exponent nonzero)) ∧
      UnpackedFloat.round Format.binary64 (signOf negative) number 0 =
        .finite (signOf negative) mantissa exponent nonzero ∧
      Nat.pow 2 52 ≤ mantissa ∧ mantissa < Nat.pow 2 53 ∧ -52 ≤ exponent ∧ exponent ≤ 971 := by
  obtain ⟨mantissa, exponent, nonzero, rounded, low, high, least, greatest, bits⟩ :=
    round_whole (signOf negative) positive
  have digits : number.log2 < 64 := (Nat.log2_lt (Nat.ne_of_gt positive)).mpr fits
  have bounded : exponent ≤ 971 := by omega
  have above : -1074 ≤ exponent := by omega
  have total : (if negative then Nat.pow 2 63 else 0) + nearestBitsOfNumeral number 0 =
      (pack Format.binary64 (.finite (signOf negative) mantissa exponent nonzero)).toNat := by
    have same := toNat_pack_finite (signOf negative) low high above bounded nonzero
    rw [bits, ← nearestBits_whole positive fits] at same
    rw [nearestBitsOfNumeral_whole positive]
    cases negative
    · simp [signOf, Sign.toBitVec] at same ⊢
      omega
    · simp [signOf, Sign.toBitVec] at same ⊢
      omega
  have packed : (UInt64.ofNat ((if negative then Nat.pow 2 63 else 0) +
      nearestBitsOfNumeral number 0)).toBitVec =
        pack Format.binary64 (.finite (signOf negative) mantissa exponent nonzero) := by
    apply BitVec.eq_of_toNat_eq
    rw [total]
    exact Nat.mod_eq_of_lt (BitVec.isLt _)
  refine ⟨mantissa, exponent, nonzero, ?_, rounded, low, high, least, bounded⟩
  simp only [nearest, Float.ofBits, Float.Model.ofBits]
  rw [packed, unpack_pack_finite low high above bounded]

theorem lt_iff (left right : Float) :
    left < right ↔ left.toModel.unpack.compare right.toModel.unpack = some .lt := by
  have unfolded : left < right ↔ left.toModel.unpack.lt right.toModel.unpack = true :=
    decide_eq_true_iff
  rw [unfolded, UnpackedFloat.lt, beq_iff_eq]

theorem le_iff (left right : Float) :
    left ≤ right ↔
      (left.toModel.unpack.compare right.toModel.unpack).any (·.isLE) = true :=
  decide_eq_true_iff

theorem unpack_one :
    (1.0 : Float).toModel.unpack = .finite .positive (Nat.pow 2 52) (-52) (Nat.two_pow_pos 52) :=
  rfl

/-- A finite double and one are always in some order. -/
theorem not_lt_one_iff {number : Float} (finite : number.isFinite = true) :
    ¬number < 1.0 ↔ 1.0 ≤ number := by
  have real : number.toModel.unpack.isFinite = true := finite
  rw [lt_iff, le_iff, unpack_one]
  cases unpacked : number.toModel.unpack with
  | infinity sign => simp [unpacked, UnpackedFloat.isFinite] at real
  | notANumber => simp [unpacked, UnpackedFloat.isFinite] at real
  | zero sign => simp [UnpackedFloat.compare]
  | finite sign mantissa exponent nonzero =>
    cases sign with
    | negative => simp [UnpackedFloat.compare]
    | positive =>
      simp only [UnpackedFloat.compare, Option.some.injEq, Option.any_some]
      rw [← Int.compare_swap exponent, ← Nat.compare_swap mantissa, ← Ordering.swap_then]
      cases (compare exponent (-52)).then (compare mantissa (Nat.pow 2 52)) <;> decide

theorem unpack_nearest_whole (negative : Bool) {number : Nat} (positive : 0 < number)
    (fits : number < UInt64.size) :
    ∃ mantissa exponent nonzero,
      (nearest negative number 0).toModel.unpack =
        .finite (signOf negative) mantissa exponent nonzero ∧
      Nat.pow 2 52 ≤ mantissa ∧ -52 ≤ exponent := by
  obtain ⟨mantissa, exponent, nonzero, read, _, low, high, least, greatest⟩ :=
    nearest_whole negative positive fits
  refine ⟨mantissa, exponent, nonzero, ?_, low, least⟩
  rw [read]
  exact unpack_pack_finite low high (by omega) greatest nonzero

theorem isFinite_nearest_whole (negative : Bool) {number : Nat} (positive : 0 < number)
    (fits : number < UInt64.size) : (nearest negative number 0).isFinite = true := by
  obtain ⟨_, _, _, unpacked, _⟩ := unpack_nearest_whole negative positive fits
  show (nearest negative number 0).toModel.unpack.isFinite = true
  rw [unpacked]
  rfl

theorem nearest_negative_lt_one {number : Nat} (positive : 0 < number)
    (fits : number < UInt64.size) : nearest true number 0 < 1.0 := by
  obtain ⟨_, _, _, unpacked, _⟩ := unpack_nearest_whole true positive fits
  rw [lt_iff, unpacked, unpack_one]
  rfl

theorem one_le_nearest_whole {number : Nat} (positive : 0 < number)
    (fits : number < UInt64.size) : 1.0 ≤ nearest false number 0 := by
  obtain ⟨_, _, _, unpacked, low, least⟩ := unpack_nearest_whole false positive fits
  rw [le_iff, unpacked, unpack_one]
  show ((compare (-52) _).then (compare (Nat.pow 2 52) _)).isLE = true
  rw [Ordering.isLE_then_iff_or]
  rcases Int.lt_or_eq_of_le least with greater | same
  · exact .inl (Int.compare_eq_lt.mpr greater)
  · exact .inr ⟨Int.compare_eq_eq.mpr same, Nat.isLE_compare.mpr low⟩

theorem nearest_whole_eq_toFloat {number : Nat} (positive : 0 < number)
    (fits : number < UInt64.size) : nearest false number 0 = (UInt64.ofNat number).toFloat := by
  obtain ⟨_, _, _, read, rounded, _⟩ := nearest_whole false positive fits
  have whole : (UInt64.ofNat number).toNat = number := UInt64.toNat_ofNat_of_lt fits
  have order : compare (number : Int) 0 = .gt := Int.compare_eq_gt.mpr (by omega)
  rw [read, ← rounded, UInt64.toFloat, Float.Model.ofUInt64, UnpackedFloat.ofUInt64,
    UnpackedFloat.ofNat, UnpackedFloat.ofInt, whole, UnpackedFloat.normalize, order]
  rfl

end DockerfileLint.Decimal
