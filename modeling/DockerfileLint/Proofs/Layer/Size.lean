import DockerfileLint.Layer.Size
import DockerfileLint.Proofs.Dockerfile.Layout
import Mathlib.Data.Nat.Digits.Defs

/-! Which layers a history gives.  Its lines are counted from the first one that is not blank, and a
line gives a layer exactly if a byte count stands on it; no other line moves a layer.  So blank lines
around a history are not seen, and sizes that are printed one on each line are all read back. -/

namespace DockerfileLint

namespace Text

variable {text left right : Text} {number : Nat}

/-- The number that decimal digits write; the last digit counts the ones. -/
def decimalValue (digits : Text) : Nat :=
  Nat.ofDigits 10 (digits.reverse.map fun c => c.toNat - '0'.toNat)

/-- A text that writes a count of 64 bits: digits after at most one plus sign. -/
inductive WritesCount : Text → Nat → Prop where
  | digits {sign digits : Text} (marked : sign = [] ∨ sign = ['+']) (begun : digits ≠ [])
      (decimal : ∀ c ∈ digits, '0' ≤ c ∧ c ≤ '9') (small : decimalValue digits < UInt64.size) :
      WritesCount (sign ++ digits) (decimalValue digits)

def leadingBlankLines (text : Text) : Nat :=
  ((text.splitOn '\n').takeWhile fun line => line.all isBlank).length

theorem ofDigitChars_eq_decimalValue (digits : Text) :
    Nat.ofDigitChars 10 digits 0 = decimalValue digits := by
  induction digits using List.reverseRecOn with
  | nil => rfl
  | append_singleton digits c ih =>
    rw [Nat.ofDigitChars_append, ih]
    simp [decimalValue, Nat.ofDigits_cons, Nat.ofDigitChars_cons, Nat.add_comm]

theorem digits?_eq_some_iff :
    digits? text = some number ↔
      text ≠ [] ∧ (∀ c ∈ text, '0' ≤ c ∧ c ≤ '9') ∧ decimalValue text = number := by
  have digit (c : Char) : c.isDigit = true ↔ '0' ≤ c ∧ c ≤ '9' := by
    simp [Char.isDigit, Char.le_def]
  rw [digits?, ofDigitChars_eq_decimalValue]
  simp [List.all_eq_true, digit, and_assoc]

theorem count?_eq_some_iff : count? text = some number ↔ WritesCount text number := by
  rw [count?, Option.filter_eq_some_iff, digits?_eq_some_iff, decide_eq_true_eq]
  constructor
  · rintro ⟨⟨begun, decimal, rfl⟩, small⟩
    by_cases marked : text.head? = some '+'
    · obtain ⟨digits, rfl⟩ := List.head?_eq_some_iff.mp marked
      exact .digits (.inr rfl) begun decimal small
    · rw [if_neg marked] at begun decimal small ⊢
      exact .digits (.inl rfl) begun decimal small
  · rintro ⟨rfl | rfl, begun, decimal, small⟩
    · rename_i digits
      have unmarked : ([] ++ digits).head? ≠ some '+' := by
        intro marked
        have bounds := decimal '+' (List.mem_of_mem_head? marked)
        exact absurd bounds.1 (by decide)
      rw [if_neg unmarked]
      exact ⟨⟨begun, decimal, rfl⟩, small⟩
    · exact ⟨⟨begun, decimal, rfl⟩, small⟩

theorem writesCount_ofNat (count : UInt64) : WritesCount (ofNat count.toNat) count.toNat := by
  rw [← count?_eq_some_iff, count?, Option.filter_eq_some_iff]
  have unmarked : (ofNat count.toNat).head? ≠ some '+' := by
    intro marked
    have digit := Nat.isDigit_of_mem_toDigits (by decide) (by decide) (List.mem_of_mem_head? marked)
    cases digit
  rw [if_neg unmarked, digits?_ofNat]
  exact ⟨rfl, decide_eq_true count.toNat_lt⟩

theorem visible_of_mem_ofNat {n : Nat} {c : Char} (member : c ∈ ofNat n) : isBlank c = false := by
  have bounds : 48 ≤ c.toNat ∧ c.toNat ≤ 57 := Char.isDigit_iff_toNat.mp
    (Nat.isDigit_of_mem_toDigits (by decide) (by decide) member)
  simp only [isBlank, Bool.or_eq_false_iff, Bool.and_eq_false_iff, decide_eq_false_iff_not,
    beq_eq_false_iff_ne, ne_eq, UInt32.le_iff_toNat_le, ← UInt32.toNat_inj, UInt32.reduceToNat,
    Char.toNat_val]
  omega

theorem trimmed_ofNat (n : Nat) : Trimmed (ofNat n) :=
  trimmed_of_visible Nat.toDigits_ne_nil fun _ => visible_of_mem_ofNat

/-- Where two texts meet, the last line of one and the first line of the other become one line. -/
theorem splitOn_append (before after : Text) :
    ∃ front last first rest, before.splitOn '\n' = front ++ [last] ∧
      after.splitOn '\n' = first :: rest ∧
      (before ++ after).splitOn '\n' = front ++ (last ++ first) :: rest := by
  induction before with
  | nil =>
    obtain ⟨first, rest, same⟩ := List.exists_cons_of_ne_nil (List.splitOn_ne_nil '\n' after)
    exact ⟨[], [], first, rest, rfl, same, same⟩
  | cons c before ih =>
    obtain ⟨front, last, first, rest, splitBefore, splitAfter, whole⟩ := ih
    simp only [List.cons_append, List.splitOn_cons_eq_if_modifyHead, splitBefore, whole]
    split
    · exact ⟨[] :: front, last, first, rest, rfl, splitAfter, rfl⟩
    · cases front with
      | nil => exact ⟨[], c :: last, first, rest, rfl, splitAfter, rfl⟩
      | cons line front => exact ⟨(c :: line) :: front, last, first, rest, rfl, splitAfter, rfl⟩

/-- Trimmed, the lines of a text are the stretches between its line feeds, but for an empty one at
the end. -/
theorem exists_map_trim_lines (text : Text) :
    ∃ ending, (∀ line ∈ ending, line = []) ∧
      (text.splitOn '\n').map trim = (lines text).map trim ++ ending := by
  rw [lines]
  fun_induction linesOfPieces (text.splitOn '\n') with
  | case1 => exact ⟨[], by simp, rfl⟩
  | case2 last empty => exact ⟨[[]], by simp, by simp_all; rfl⟩
  | case3 last visible => exact ⟨[], by simp, rfl⟩
  | case4 line next rest ih =>
    obtain ⟨ending, empty, same⟩ := ih
    exact ⟨ending, empty, by rw [List.map_cons, same, List.map_cons, trim_dropReturn]; rfl⟩

theorem exists_map_trim_splitOn_append (text : Text) {blanks : Text}
    (blank : ∀ c ∈ blanks, isBlank c = true) :
    ∃ ending, (∀ line ∈ ending, line = []) ∧
      ((text ++ blanks).splitOn '\n').map trim = (text.splitOn '\n').map trim ++ ending := by
  obtain ⟨front, last, first, rest, splitText, splitBlanks, whole⟩ := splitOn_append text blanks
  have blankLine (line : Text) (member : line ∈ first :: rest) : ∀ c ∈ line, isBlank c = true :=
    fun c inside => blank c (subset_of_mem_splitOn (splitBlanks ▸ member) inside)
  refine ⟨rest.map trim, ?_, ?_⟩
  · intro line member
    obtain ⟨piece, present, rfl⟩ := List.mem_map.mp member
    exact trim_eq_nil.mpr (blankLine piece (List.mem_cons_of_mem first present))
  · rw [whole, splitText]
    simp [trim_append_blanks last (blankLine first List.mem_cons_self)]

theorem startsVisibly_of_splitOn {first : Text} {rest : List Text} (starts : StartsVisibly text)
    (split : text.splitOn '\n' = first :: rest) : StartsVisibly first := by
  obtain ⟨c, head, visible⟩ := starts
  obtain ⟨text, rfl⟩ := List.head?_eq_some_iff.mp head
  have inside : ¬(c == '\n') = true := by
    rintro same
    rw [eq_of_beq same] at visible
    cases visible
  obtain ⟨line, later, same⟩ := List.exists_cons_of_ne_nil (List.splitOn_ne_nil '\n' text)
  rw [List.splitOn_cons_eq_if_modifyHead, if_neg inside, same, List.modifyHead_cons] at split
  exact ⟨c, by rw [← (List.cons.inj split).1]; rfl, visible⟩

/-- A text that begins visibly has no blank lines to begin with, and blanks before it only put blank
lines on top of its own. -/
theorem map_trim_drop_leadingBlankLines {blanks : Text} (blank : ∀ c ∈ blanks, isBlank c = true)
    (starts : StartsVisibly text) :
    (((blanks ++ text).splitOn '\n').drop (leadingBlankLines (blanks ++ text))).map trim =
      (text.splitOn '\n').map trim := by
  obtain ⟨front, last, first, rest, splitBlanks, splitText, whole⟩ := splitOn_append blanks text
  have blankLine (line : Text) (member : line ∈ front ++ [last]) : ∀ c ∈ line, isBlank c = true :=
    fun c inside => blank c (subset_of_mem_splitOn (splitBlanks ▸ member) inside)
  have visible : (last ++ first).all isBlank = false := by
    obtain ⟨c, head, visible⟩ := startsVisibly_of_splitOn starts splitText
    exact List.all_eq_false.mpr
      ⟨c, List.mem_append_right last (List.mem_of_mem_head? head), by simp [visible]⟩
  have leading : leadingBlankLines (blanks ++ text) = front.length := by
    rw [leadingBlankLines, whole, List.takeWhile_append_of_pos, List.takeWhile_cons_of_neg (by simp [visible])]
    · simp
    · intro line member
      exact List.all_eq_true.mpr (blankLine line (List.mem_append_left _ member))
  rw [leading, whole, List.drop_left, splitText, List.map_cons, List.map_cons,
    trim_blanks_append (blankLine last (by simp))]

end Text

namespace LayerSize

variable {layer : LayerSize} {history : Text} {lines : List Text}

def ofLines (lines : List Text) : List LayerSize :=
  lines.zipIdx.filterMap fun (line, index) =>
    (Text.count? line).map fun bytes => { index, bytes }

theorem ofHistory_eq (history : Text) :
    ofHistory history = ofLines ((Text.lines (Text.trim history)).map Text.trim) := by
  rw [ofHistory, ofLines, List.zipIdx_map, List.filterMap_map]
  rfl

theorem mem_ofLines_iff :
    layer ∈ ofLines lines ↔
      ∃ line, lines[layer.index]? = some line ∧ Text.WritesCount line layer.bytes := by
  rw [ofLines, List.mem_filterMap]
  constructor
  · rintro ⟨⟨line, index⟩, member, counted⟩
    obtain ⟨bytes, count, rfl⟩ := Option.map_eq_some_iff.mp counted
    exact ⟨line, List.mk_mem_zipIdx_iff_getElem?.mp member, Text.count?_eq_some_iff.mp count⟩
  · rintro ⟨line, stands, writes⟩
    refine ⟨(line, layer.index), List.mk_mem_zipIdx_iff_getElem?.mpr stands, ?_⟩
    exact Option.map_eq_some_iff.mpr ⟨layer.bytes, Text.count?_eq_some_iff.mpr writes, rfl⟩

theorem pairwise_index_ofLines (lines : List Text) :
    (ofLines lines).Pairwise fun upper lower => upper.index < lower.index := by
  have ordered : lines.zipIdx.Pairwise fun upper lower => upper.2 < lower.2 := by
    rw [← List.pairwise_map, List.zipIdx_map_snd]
    exact List.pairwise_lt_range'
  refine ordered.filterMap _ ?_
  rintro upper lower before _ found _ later
  obtain ⟨_, _, rfl⟩ := Option.map_eq_some_iff.mp found
  obtain ⟨_, _, rfl⟩ := Option.map_eq_some_iff.mp later
  exact before

theorem ofLines_append_empty {ending : List Text} (empty : ∀ line ∈ ending, line = []) :
    ofLines (lines ++ ending) = ofLines lines := by
  rw [ofLines, List.zipIdx_append, List.filterMap_append, ← ofLines]
  refine (List.append_right_eq_self).mpr (List.filterMap_eq_nil_iff.mpr ?_)
  rintro ⟨line, index⟩ member
  rw [empty line (List.fst_mem_of_mem_zipIdx member)]
  rfl

/-- The layers of a history stand on its lines, counted from the first that is not blank. -/
theorem ofHistory_eq_ofLines (history : Text) :
    ofHistory history =
      ofLines (((history.splitOn '\n').drop (Text.leadingBlankLines history)).map Text.trim) := by
  by_cases visible : Text.trim history = []
  · have blank := Text.trim_eq_nil.mp visible
    have allBlank : ∀ line ∈ history.splitOn '\n', line.all Text.isBlank = true :=
      fun line member => List.all_eq_true.mpr fun c inside =>
        blank c (Text.subset_of_mem_splitOn member inside)
    rw [ofHistory, visible, Text.leadingBlankLines, List.takeWhile_eq_self_iff.mpr allBlank,
      List.drop_length]
    rfl
  · obtain ⟨above, below, blankAbove, blankBelow, whole⟩ := Text.exists_blanks_around_trim history
    have starts := (Text.trimmed_trim visible).starts
    obtain ⟨ending, emptyEnding, atEnd⟩ := Text.exists_map_trim_lines (Text.trim history)
    obtain ⟨more, emptyMore, behind⟩ :=
      Text.exists_map_trim_splitOn_append (Text.trim history) blankBelow
    have trimmed :
        ((history.splitOn '\n').drop (Text.leadingBlankLines history)).map Text.trim =
          (Text.lines (Text.trim history)).map Text.trim ++ (ending ++ more) := by
      rw [← List.append_assoc, ← atEnd, ← behind,
        ← Text.map_trim_drop_leadingBlankLines blankAbove (starts.append below), ← whole]
    have empty : ∀ line ∈ ending ++ more, line = [] :=
      List.forall_mem_append.mpr ⟨emptyEnding, emptyMore⟩
    rw [trimmed, ofLines_append_empty empty, ofHistory_eq]

theorem pairwise_index_ofHistory (history : Text) :
    (ofHistory history).Pairwise fun upper lower => upper.index < lower.index := by
  rw [ofHistory_eq_ofLines]
  exact pairwise_index_ofLines _

/-- A count on a line of its own, with blanks around it. -/
structure PrintedCount where
  front : Text
  count : UInt64
  back : Text
  frontPads : Text.IsPadding front
  backPads : Text.IsPadding back

def PrintedCount.line (printed : PrintedCount) : Text :=
  printed.front ++ Text.ofNat printed.count.toNat ++ printed.back

namespace PrintedCount

theorem trim_line (printed : PrintedCount) :
    Text.trim printed.line = Text.ofNat printed.count.toNat := by
  rw [line, Text.trim_padded printed.frontPads _ printed.backPads, (Text.trimmed_ofNat _).trim_eq]

theorem newline_notMem_line (printed : PrintedCount) : '\n' ∉ printed.line := by
  refine Text.newline_notMem_padded printed.frontPads (fun inside => ?_) printed.backPads
  cases Text.visible_of_mem_ofNat inside

theorem not_blank_line (printed : PrintedCount) : ¬printed.line.all Text.isBlank = true := by
  intro blank
  have empty := Text.trim_eq_nil.mpr (List.all_eq_true.mp blank)
  rw [printed.trim_line] at empty
  exact (Text.trimmed_ofNat _).ne_nil empty

end PrintedCount

theorem ofLines_printed (printed : List PrintedCount) :
    ofLines ((printed.map (·.line)).map Text.trim) =
      printed.zipIdx.map fun (printed, index) => { index, bytes := printed.count.toNat } := by
  rw [List.map_map, ofLines, List.zipIdx_map, List.filterMap_map, ← List.filterMap_eq_map]
  refine List.filterMap_congr ?_
  rintro ⟨printed, index⟩ _
  have counted := Text.count?_eq_some_iff.mpr (Text.writesCount_ofNat printed.count)
  simp [printed.trim_line, counted]

theorem ofHistory_printed (printed : List PrintedCount) :
    ofHistory (Text.joinWith "\n" (printed.map (·.line))) =
      printed.zipIdx.map fun (printed, index) => { index, bytes := printed.count.toNat } := by
  cases printed with
  | nil => rfl
  | cons first rest =>
    have unbroken : ∀ line ∈ (first :: rest).map (·.line), '\n' ∉ line := by
      intro line member
      obtain ⟨printed, _, rfl⟩ := List.mem_map.mp member
      exact printed.newline_notMem_line
    have split : (Text.joinWith "\n" ((first :: rest).map (·.line))).splitOn '\n' =
        (first :: rest).map (·.line) :=
      List.splitOn_intercalate '\n' unbroken (List.cons_ne_nil _ _)
    have leading : Text.leadingBlankLines
        (Text.joinWith "\n" ((first :: rest).map (·.line))) = 0 := by
      rw [Text.leadingBlankLines, split, List.map_cons, List.takeWhile_cons,
        if_neg first.not_blank_line]
      rfl
    rw [ofHistory_eq_ofLines, leading, split, List.drop_zero, ofLines_printed]

/-- The layers of a history, exactly.  A layer is read where a line, counted from the first that is
not blank, writes a count of 64 bits, and nowhere else; so layers are in the order of their lines,
blank lines around the history are not seen, and printed counts are all read back. -/
theorem ofHistory_countedLines (history : Text) :
    (∀ layer : LayerSize, layer ∈ ofHistory history ↔
      ∃ line, (history.splitOn '\n')[Text.leadingBlankLines history + layer.index]? = some line ∧
        Text.WritesCount (Text.trim line) layer.bytes) ∧
      (ofHistory history).Pairwise (fun upper lower => upper.index < lower.index) ∧
      (∀ above below : Text, (∀ c ∈ above ++ below, Text.isBlank c = true) →
        ofHistory (above ++ history ++ below) = ofHistory history) ∧
      ∀ printed : List PrintedCount,
        ofHistory (Text.joinWith "\n" (printed.map (·.line))) =
          printed.zipIdx.map fun (printed, index) => { index, bytes := printed.count.toNat } := by
  refine ⟨fun layer => ?_, pairwise_index_ofHistory history, fun above below blank => ?_,
    ofHistory_printed⟩
  · rw [ofHistory_eq_ofLines, mem_ofLines_iff]
    simp only [List.getElem?_map, List.getElem?_drop, Option.map_eq_some_iff]
    constructor
    · rintro ⟨_, ⟨line, stands, rfl⟩, writes⟩
      exact ⟨line, stands, writes⟩
    · rintro ⟨line, stands, writes⟩
      exact ⟨_, ⟨line, stands, rfl⟩, writes⟩
  · obtain ⟨blankAbove, blankBelow⟩ := List.forall_mem_append.mp blank
    rw [ofHistory, Text.trim_append_blanks _ blankBelow, Text.trim_blanks_append blankAbove,
      ← ofHistory]

/-- Blank lines above and below, a sign, leading zeros, a carriage return, and a count that is just
too large. -/
theorem ofHistory_countedLines_padded :
    let history : Text := "\n +007\r\n18446744073709551616\n18446744073709551615"
    let printed : PrintedCount :=
      { front := "\t", count := 18446744073709551615, back := [],
        frontPads := List.forall_mem_singleton.mpr (by decide), backPads := List.forall_mem_nil _ }
    (∀ c ∈ ("\n" : Text) ++ "\n \n", Text.isBlank c = true) ∧
      ofHistory ("\n" ++ history ++ "\n \n") = ofHistory history ∧
      ofHistory history = [⟨0, 7⟩, ⟨2, 18446744073709551615⟩] ∧
      ofHistory (Text.joinWith "\n" [printed.line]) = [⟨0, 18446744073709551615⟩] := by
  intro history printed
  have blank : ∀ c ∈ ("\n" : Text) ++ "\n \n", Text.isBlank c = true := List.all_eq_true.mp rfl
  obtain ⟨_, _, padded, read⟩ := ofHistory_countedLines history
  exact ⟨blank, padded "\n" "\n \n" blank, by decide +kernel, read [printed]⟩

end LayerSize

end DockerfileLint
