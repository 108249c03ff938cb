/-! Texts are lists of characters, so that every rule on them is a recursion or a list operation.
This module holds searching and joining; blanks, lines and letter case have modules of their own. -/

namespace DockerfileLint

abbrev Text := List Char

instance : Coe String Text := ⟨String.toList⟩

namespace Text

/-- Whether `part` occurs somewhere in the text as a run of consecutive characters. -/
def contains (part : Text) : Text → Bool
  | [] => part.isEmpty
  | c :: rest => part.isPrefixOf (c :: rest) || contains part rest

theorem contains_iff_infix {part text : Text} : contains part text = true ↔ part <:+: text := by
  induction text with
  | nil => simp [contains, List.isEmpty_iff]
  | cons c rest ih =>
    rw [contains, Bool.or_eq_true, List.isPrefixOf_iff_prefix, ih, List.infix_cons_iff]

def joinWith (between : Text) (pieces : List Text) : Text := List.intercalate between pieces

/-- Two texts agree up to the case of the letters `a` to `z`; no other letter is folded. -/
def sameIgnoringCase (left right : Text) : Bool := left.map Char.toLower == right.map Char.toLower

end Text

end DockerfileLint
