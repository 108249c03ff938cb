import DockerfileLint.Text.Lines

namespace DockerfileLint.Text

variable {line before after text : Text}

/-- Nothing is left of a line, or its line feed comes next. -/
def AtLineEnd (after : Text) : Prop := after = [] ∨ after.head? = some '\n'

/-- The text of lines that a line feed ends each. -/
def ofLines (lines : List Text) : Text := lines.flatMap (· ++ ['\n'])

theorem ofLines_cons (line : Text) (rest : List Text) :
    ofLines (line :: rest) = line ++ '\n' :: ofLines rest := by
  simp [ofLines]

theorem ofLines_singleton (line : Text) : ofLines [line] = line ++ ['\n'] := by
  simp [ofLines]

theorem ofLines_append (first second : List Text) :
    ofLines (first ++ second) = ofLines first ++ ofLines second :=
  List.flatMap_append

/-- Lines can be told apart again; what follows the last of them is empty. -/
theorem splitOn_ofLines {lines : List Text} (unbroken : ∀ line ∈ lines, '\n' ∉ line) :
    (ofLines lines).splitOn '\n' = lines ++ [[]] := by
  induction lines with
  | nil => rfl
  | cons line rest ih =>
    obtain ⟨first, later⟩ := List.forall_mem_cons.mp unbroken
    rw [ofLines_cons, List.splitOn_append_cons_self, List.splitOn_eq_singleton first, ih later]
    rfl

/-- No line has been begun yet. -/
def AtLineStart (before : Text) : Prop := before = [] ∨ before.getLast? = some '\n'

theorem AtLineEnd.cases (ended : AtLineEnd after) : after = [] ∨ ∃ rest, after = '\n' :: rest := by
  rcases ended with empty | first
  · exact .inl empty
  · obtain ⟨rest, same⟩ := List.head?_eq_some_iff.mp first
    exact .inr ⟨rest, same⟩

theorem AtLineStart.cases (ended : AtLineStart before) :
    before = [] ∨ ∃ kept, before = kept ++ ['\n'] := by
  rcases ended with empty | last
  · exact .inl empty
  · obtain ⟨kept, same⟩ := List.getLast?_eq_some_iff.mp last
    exact .inr ⟨kept, same⟩

theorem atLineStart_ofLines (lines : List Text) : AtLineStart (ofLines lines) := by
  rcases List.eq_nil_or_concat lines with rfl | ⟨front, last, rfl⟩
  · exact .inl rfl
  · right
    rw [List.concat_eq_append, ofLines_append, ofLines_singleton]
    simp

@[simp] theorem lines_nil : lines [] = [] := rfl

private theorem linesOfPieces_append (ended : List Text) {rest : List Text} (more : rest ≠ []) :
    linesOfPieces (ended ++ rest) = ended.map dropReturn ++ linesOfPieces rest := by
  induction ended with
  | nil => rfl
  | cons line ended ih =>
    have follow : ended ++ rest ≠ [] := by simp [more]
    obtain ⟨next, others, same⟩ := List.exists_cons_of_ne_nil follow
    rw [List.cons_append, same, linesOfPieces, ← same, ih]
    rfl

private theorem lines_append_newline (before text : Text) :
    lines (before ++ '\n' :: text) =
      (before.splitOn '\n').map dropReturn ++ lines text := by
  rw [lines, List.splitOn_append_cons_self, linesOfPieces_append _ (List.splitOn_ne_nil _ _), lines]

/-- A text whose last line is ended is read on its own. -/
theorem lines_append (started : AtLineStart before) (text : Text) :
    lines (before ++ text) = lines before ++ lines text := by
  rcases started.cases with rfl | ⟨kept, rfl⟩
  · rfl
  · rw [List.append_assoc, List.singleton_append, lines_append_newline, lines_append_newline,
      lines_nil, List.append_nil]

theorem length_splitOn (text : Text) : (text.splitOn '\n').length = text.count '\n' + 1 := by
  induction text with
  | nil => rfl
  | cons c rest ih =>
    rw [List.splitOn_cons_eq_if_modifyHead, List.count_cons]
    split
    · rw [List.length_cons, ih]
    · rw [List.length_modifyHead, ih, Nat.add_zero]

/-- Every line feed ends one line. -/
theorem length_lines (started : AtLineStart before) :
    (lines before).length = before.count '\n' := by
  rcases started.cases with rfl | ⟨kept, rfl⟩
  · rfl
  · rw [lines_append_newline, List.length_append, List.length_map, length_splitOn]
    simp

theorem lines_unended (unbroken : '\n' ∉ line) (begun : line ≠ []) : lines line = [line] := by
  rw [lines, List.splitOn_eq_singleton unbroken]
  simp [linesOfPieces, begun]

theorem lines_ended (unbroken : '\n' ∉ line) (text : Text) :
    lines (line ++ '\n' :: text) = dropReturn line :: lines text := by
  rw [lines_append_newline, List.splitOn_eq_singleton unbroken]
  rfl

theorem not_of_mem_splitOnP {separates : Char → Bool} {piece : Text}
    (member : piece ∈ text.splitOnP separates) : ∀ c ∈ piece, separates c = false := by
  induction text generalizing piece with
  | nil => simp_all
  | cons c rest ih =>
    rw [List.splitOnP_cons_eq_if_modifyHead] at member
    obtain ⟨first, others, same⟩ := List.exists_cons_of_ne_nil (List.splitOnP_ne_nil separates rest)
    split at member
    · rcases List.mem_cons.mp member with rfl | later
      · exact List.forall_mem_nil _
      · exact ih later
    · rename_i inside
      rw [same, List.modifyHead_cons] at member
      rcases List.mem_cons.mp member with rfl | later
      · exact List.forall_mem_cons.mpr ⟨eq_false_of_ne_true inside, ih (by simp [same])⟩
      · exact ih (by simp [same, later])

theorem newline_notMem_of_mem_splitOn (member : line ∈ text.splitOn '\n') : '\n' ∉ line := by
  rw [List.splitOn_eq_splitOnP] at member
  intro inside
  simpa using not_of_mem_splitOnP member '\n' inside

theorem eq_ofLines_of_splitOn {lines : List Text} (split : text.splitOn '\n' = lines ++ [[]]) :
    text = ofLines lines := by
  have unbroken : ∀ line ∈ lines, '\n' ∉ line := by
    intro line member
    have piece : line ∈ text.splitOn '\n' := split ▸ List.mem_append_left _ member
    exact newline_notMem_of_mem_splitOn piece
  calc text
      = List.intercalate ['\n'] (text.splitOn '\n') := (List.intercalate_splitOn '\n').symm
    _ = List.intercalate ['\n'] ((ofLines lines).splitOn '\n') := by
      rw [split, splitOn_ofLines unbroken]
    _ = ofLines lines := List.intercalate_splitOn '\n'

theorem subset_of_mem_splitOn {line : Text} (member : line ∈ text.splitOn '\n') : line ⊆ text := by
  induction text generalizing line with
  | nil => simp_all
  | cons c text ih =>
    rw [List.splitOn_cons_eq_if_modifyHead] at member
    obtain ⟨first, rest, same⟩ := List.exists_cons_of_ne_nil (List.splitOn_ne_nil '\n' text)
    have begins : first ⊆ text := ih (by simp [same])
    split at member
    · rcases List.mem_cons.mp member with rfl | later
      · exact List.nil_subset _
      · exact List.subset_cons_of_subset c (ih later)
    · rw [same, List.modifyHead_cons] at member
      rcases List.mem_cons.mp member with rfl | later
      · exact List.cons_subset_cons c begins
      · exact List.subset_cons_of_subset c (ih (by simp [same, later]))

private theorem dropReturn_prefix (line : Text) : dropReturn line <+: line := by
  unfold dropReturn
  split
  · exact List.dropLast_prefix line
  · exact List.prefix_refl line

private theorem prefix_of_mem_linesOfPieces {pieces : List Text}
    (member : line ∈ linesOfPieces pieces) : ∃ piece ∈ pieces, line <+: piece := by
  fun_induction linesOfPieces pieces with
  | case1 => simp at member
  | case2 last empty => simp at member
  | case3 last visible => exact ⟨last, by simp, by simp_all⟩
  | case4 first next rest ih =>
    rcases List.mem_cons.mp member with rfl | later
    · exact ⟨first, by simp, dropReturn_prefix first⟩
    · obtain ⟨piece, present, begins⟩ := ih later
      exact ⟨piece, List.mem_cons_of_mem first present, begins⟩

theorem newline_notMem_of_mem_lines (member : line ∈ lines text) : '\n' ∉ line := by
  obtain ⟨piece, present, begins⟩ := prefix_of_mem_linesOfPieces member
  exact fun inside => newline_notMem_of_mem_splitOn present (begins.subset inside)

theorem subset_of_mem_lines (member : line ∈ lines text) : line ⊆ text := by
  obtain ⟨piece, present, begins⟩ := prefix_of_mem_linesOfPieces member
  exact List.Subset.trans begins.subset (subset_of_mem_splitOn present)

end DockerfileLint.Text
