import DockerfileLint.Text.Uppercase
import Mathlib

namespace DockerfileLint.Text

variable {text left right : Text} {c : Char}

/-- None of the letters `a` to `z` occurs. -/
def HasNoSmallLetter (text : Text) : Prop := ∀ c ∈ text, c.isLower = false

theorem hasNoSmallLetter_of_all (all : text.all (!·.isLower) = true) : HasNoSmallLetter text := by
  intro c member
  have kept := List.all_eq_true.mp all c member
  rwa [Bool.not_eq_true'] at kept

theorem isLower_iff_toNat : c.isLower = true ↔ 0x61 ≤ c.toNat ∧ c.toNat ≤ 0x7A := by
  simp [Char.isLower, UInt32.le_iff_toNat_le, ← Char.toNat_val]

/-- A code that is out of range stands for a character that is no letter at all. -/
theorem isLower_ofNat {code : Nat} (apart : code < 0x61 ∨ 0x7A < code) :
    (Char.ofNat code).isLower = false := by
  rw [← Bool.not_eq_true, isLower_iff_toNat, Char.toNat_ofNat]
  split <;> omega

/-- The images of no range come near the letters `a` to `z`. -/
private theorem caseRanges_apart :
    ∀ range ∈ caseRanges, range.image + (range.last - range.first) < 0x61 ∨ 0x7A < range.image := by
  decide +kernel

private theorem caseExpansions_apart :
    ∀ entry ∈ caseExpansions, ∀ code ∈ entry.2, code < 0x61 ∨ 0x7A < code := by
  decide +kernel

theorem CaseRange.isLower_of_imageOf? {range : CaseRange} {code : Nat}
    (known : range ∈ caseRanges) (image : range.imageOf? code = some c) : c.isLower = false := by
  rw [CaseRange.imageOf?] at image
  split at image
  · rename_i inside
    obtain rfl := Option.some.inj image
    have apart := caseRanges_apart range known
    exact isLower_ofNat (by omega)
  · cases image

/-- A small letter is in the first range, so it is not its own upper case. -/
theorem isLower_of_findSome?_eq_none
    (unchanged : caseRanges.findSome? (·.imageOf? c.toNat) = none) : c.isLower = false := by
  have outside := List.findSome?_eq_none_iff.mp unchanged ⟨0x61, 0x7A, 1, 0x41⟩ List.mem_cons_self
  rw [← Bool.not_eq_true, isLower_iff_toNat]
  intro letter
  rw [CaseRange.imageOf?, if_pos ⟨letter.1, letter.2, Nat.mod_one _⟩] at outside
  cases outside

theorem hasNoSmallLetter_uppercaseChar (c : Char) : HasNoSmallLetter (uppercaseChar c) := by
  rw [uppercaseChar]
  split
  · rename_i upper found
    obtain ⟨range, known, image⟩ := List.exists_of_findSome?_eq_some found
    exact List.forall_mem_singleton.mpr (CaseRange.isLower_of_imageOf? known image)
  · rename_i unchanged
    split
    · rename_i codes found
      intro d member
      obtain ⟨code, present, rfl⟩ := List.mem_map.mp member
      obtain ⟨before, after, whole, _⟩ := List.lookup_eq_some_iff.mp found
      have known : (c.toNat, codes) ∈ caseExpansions := by
        rw [whole]
        exact List.mem_append_right before List.mem_cons_self
      exact isLower_ofNat (caseExpansions_apart _ known code present)
    · exact List.forall_mem_singleton.mpr (isLower_of_findSome?_eq_none unchanged)

theorem hasNoSmallLetter_uppercase (text : Text) : HasNoSmallLetter (uppercase text) := by
  intro c member
  obtain ⟨d, _, inside⟩ := List.mem_flatMap.mp member
  exact hasNoSmallLetter_uppercaseChar d c inside

theorem HasNoSmallLetter.map_toUpper (capital : HasNoSmallLetter text) :
    text.map Char.toUpper = text := by
  conv_rhs => rw [← List.map_id text]
  apply List.map_congr_left
  intro c member
  exact Char.toUpper_eq_of_not_isLower (by rw [capital c member]; decide)

/-- Case is all that the comparison passes over, and here there is only one. -/
theorem HasNoSmallLetter.sameIgnoringCase_iff (first : HasNoSmallLetter left)
    (second : HasNoSmallLetter right) : sameIgnoringCase left right = true ↔ left = right := by
  rw [sameIgnoringCase, beq_iff_eq]
  constructor
  · intro same
    have raised := congrArg (List.map Char.toUpper) same
    simp only [List.map_map, Function.comp_def, Char.toUpper_toLower_eq_toUpper] at raised
    rwa [first.map_toUpper, second.map_toUpper] at raised
  · exact congrArg (List.map Char.toLower)

end DockerfileLint.Text
