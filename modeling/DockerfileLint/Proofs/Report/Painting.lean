import DockerfileLint.Proofs.Report.Lines

/-! Colour is presentation only.  A painted report is the plain one with stretches of its lines between a
colour and a reset, so taking the sequences out again leaves the plain report. -/

namespace DockerfileLint

namespace Text

variable {text rest digits : Text} {c : Char}

/-- What stands behind the colour sequence that a text begins with: an escape, a bracket, digits and
an `m`. -/
def behindSequence? : Text → Option Text
  | '\x1b' :: '[' :: rest =>
    match rest.takeWhile Char.isDigit, rest.dropWhile Char.isDigit with
    | _ :: _, 'm' :: behind => some behind
    | _, _ => none
  | _ => none

theorem length_behindSequence? (found : behindSequence? text = some rest) :
    rest.length < text.length := by
  unfold behindSequence? at found
  split at found
  · rename_i behind
    split at found
    · rename_i digit digits last _ cut
      obtain rfl := Option.some.inj found
      have shorter := (List.dropWhile_suffix Char.isDigit (l := behind)).length_le
      rw [cut] at shorter
      simp only [List.length_cons] at shorter ⊢
      omega
    · cases found
  · cases found

/-- A text without its colour sequences, which are looked for from left to right. -/
def withoutSequences (text : Text) : Text :=
  match text with
  | [] => []
  | c :: rest =>
    match _found : behindSequence? (c :: rest) with
    | some behind => withoutSequences behind
    | none => c :: withoutSequences rest
termination_by text.length
decreasing_by
  · exact length_behindSequence? _found
  · exact Nat.lt_succ_self _

@[simp] theorem withoutSequences_nil : withoutSequences [] = [] := by
  rw [withoutSequences]

theorem withoutSequences_of_behindSequence? (found : behindSequence? text = some rest) :
    withoutSequences text = withoutSequences rest := by
  cases text with
  | nil => cases found
  | cons c others =>
    rw [withoutSequences]
    split
    · rename_i behind same
      obtain rfl := Option.some.inj (same.symm.trans found)
      rfl
    · rename_i none
      rw [none] at found
      cases found

theorem withoutSequences_cons (ordinary : c ≠ '\x1b') (rest : Text) :
    withoutSequences (c :: rest) = c :: withoutSequences rest := by
  have none : behindSequence? (c :: rest) = none := by
    unfold behindSequence?
    split
    · rename_i same
      exact absurd (List.cons.inj same).1 ordinary
    · rfl
  rw [withoutSequences]
  split
  · rename_i behind found
    rw [none] at found
    cases found
  · rfl

theorem withoutSequences_append (ordinary : '\x1b' ∉ text) (rest : Text) :
    withoutSequences (text ++ rest) = text ++ withoutSequences rest := by
  induction text with
  | nil => rfl
  | cons c others ih =>
    obtain ⟨first, later⟩ := List.ne_and_not_mem_of_not_mem_cons ordinary
    rw [List.cons_append, withoutSequences_cons first.symm, ih later, List.cons_append]

end Text

namespace Color

variable {text : Text}

theorem start_eq (color : Color) :
    ∃ digit, digit ≠ '\x1b' ∧ color.start = ['\x1b', '[', '3', digit, 'm'] := by
  cases color with
  | red => exact ⟨'1', by decide, rfl⟩
  | green => exact ⟨'2', by decide, rfl⟩
  | yellow => exact ⟨'3', by decide, rfl⟩
  | blue => exact ⟨'4', by decide, rfl⟩
  | cyan => exact ⟨'6', by decide, rfl⟩

theorem behindSequence?_start (color : Color) (rest : Text) :
    Text.behindSequence? (color.start ++ rest) = some rest := by
  cases color <;> rfl

theorem behindSequence?_reset (rest : Text) : Text.behindSequence? (reset ++ rest) = some rest := rfl

theorem resume_eq_self (color : Color) (ordinary : '\x1b' ∉ text) : color.resume text = text := by
  induction text with
  | nil => rfl
  | cons c others ih =>
    obtain ⟨first, later⟩ := List.ne_and_not_mem_of_not_mem_cons ordinary
    rw [resume, ih later]
    intro rest same _
    exact first same.symm

end Color

/-- A text and the same text painted: stretches of its lines stand between a colour and a reset. -/
inductive PaintedAs : Text → Text → Prop
  | nil : PaintedAs [] []
  | plain {c : Char} {rest painted : Text} (ordinary : c ≠ '\x1b') (others : PaintedAs rest painted) :
      PaintedAs (c :: rest) (c :: painted)
  | region (color : Color) {region rest painted : Text} (ordinary : '\x1b' ∉ region)
      (unbroken : '\n' ∉ region) (others : PaintedAs rest painted) :
      PaintedAs (region ++ rest) (color.start ++ region ++ Color.reset ++ painted)

/-- Every colour is reset on the line on which it starts. -/
def EndsColors (text : Text) : Prop :=
  ∀ before color behind, text = before ++ Color.start color ++ behind →
    ∃ region after, behind = region ++ Color.reset ++ after ∧ '\x1b' ∉ region ∧ '\n' ∉ region

namespace PaintedAs

variable {text painted left right paintedLeft paintedRight : Text}

theorem append (first : PaintedAs left paintedLeft) (second : PaintedAs right paintedRight) :
    PaintedAs (left ++ right) (paintedLeft ++ paintedRight) := by
  induction first with
  | nil => exact second
  | plain ordinary _ ih => exact .plain ordinary ih
  | region color ordinary unbroken _ ih =>
    rw [List.append_assoc, List.append_assoc _ _ paintedRight]
    exact .region color ordinary unbroken ih

theorem of_ordinary (ordinary : '\x1b' ∉ text) : PaintedAs text text := by
  induction text with
  | nil => exact .nil
  | cons c rest ih =>
    obtain ⟨first, later⟩ := List.ne_and_not_mem_of_not_mem_cons ordinary
    exact .plain first.symm (ih later)

theorem paint (color : Color) (ordinary : '\x1b' ∉ text) (unbroken : '\n' ∉ text) :
    PaintedAs text (color.paint text) := by
  rw [Color.paint, color.resume_eq_self ordinary]
  have whole := region color ordinary unbroken .nil
  rwa [List.append_nil, List.append_nil] at whole

theorem flatMap {items : List α} {plainly painting : α → Text}
    (each : ∀ item ∈ items, PaintedAs (plainly item) (painting item)) :
    PaintedAs (items.flatMap plainly) (items.flatMap painting) := by
  induction items with
  | nil => exact .nil
  | cons item rest ih =>
    obtain ⟨first, later⟩ := List.forall_mem_cons.mp each
    rw [List.flatMap_cons, List.flatMap_cons]
    exact first.append (ih later)

theorem withoutSequences_eq (painting : PaintedAs text painted) :
    Text.withoutSequences painted = text := by
  induction painting with
  | nil => exact Text.withoutSequences_nil
  | plain ordinary _ ih => rw [Text.withoutSequences_cons ordinary, ih]
  | region color ordinary _ _ ih =>
    rw [List.append_assoc, List.append_assoc,
      Text.withoutSequences_of_behindSequence? (color.behindSequence?_start _),
      Text.withoutSequences_append ordinary,
      Text.withoutSequences_of_behindSequence? (Color.behindSequence?_reset _), ih]

theorem count_newline (painting : PaintedAs text painted) :
    painted.count '\n' = text.count '\n' := by
  induction painting with
  | nil => rfl
  | plain _ _ ih => rw [List.count_cons, List.count_cons, ih]
  | region color _ _ _ ih =>
    have start : color.start.count '\n' = 0 := by
      cases color <;> rfl
    have reset : Color.reset.count '\n' = 0 := rfl
    rw [List.count_append, List.count_append, List.count_append, start, reset, ih,
      List.count_append, Nat.zero_add, Nat.add_zero]

end PaintedAs

/-- An escape behind a text without any is found in what follows the text. -/
theorem exists_of_append_eq_escape {front back before after : Text} (ordinary : '\x1b' ∉ front)
    (same : front ++ back = before ++ '\x1b' :: after) :
    ∃ kept, before = front ++ kept ∧ back = kept ++ '\x1b' :: after := by
  rcases List.append_eq_append_iff.mp same with ⟨kept, begins, ends⟩ | ⟨kept, begins, ends⟩
  · exact ⟨kept, begins, ends⟩
  · cases kept with
    | nil =>
      refine ⟨[], ?_, ends.symm⟩
      rw [begins, List.append_nil, List.append_nil]
    | cons c rest =>
      obtain ⟨rfl, _⟩ := List.cons.inj ends
      refine absurd ?_ ordinary
      rw [begins]
      exact List.mem_append_right before List.mem_cons_self

/-- A colour that starts behind a painted stretch starts behind its reset. -/
theorem exists_of_region_append_eq {color other : Color} {region painted before behind : Text}
    (ordinary : '\x1b' ∉ region)
    (same : other.start ++ region ++ Color.reset ++ painted = before ++ color.start ++ behind) :
    behind = region ++ Color.reset ++ painted ∨
      ∃ later, painted = later ++ color.start ++ behind := by
  obtain ⟨digit, _, start⟩ := color.start_eq
  obtain ⟨otherDigit, visible, otherStart⟩ := other.start_eq
  have reset : Color.reset = ['\x1b', '[', '0', 'm'] := rfl
  cases before with
  | nil =>
    left
    have lengths : other.start.length = color.start.length := by
      rw [start, otherStart]
      rfl
    rw [List.append_assoc, List.append_assoc, List.nil_append] at same
    rw [List.append_assoc]
    exact (List.append_inj same lengths).2.symm
  | cons c kept =>
    right
    -- The escape is none of the first start, so it stands behind the stretch; nor is it the reset.
    have behindFirst : (['[', '3', otherDigit, 'm'] ++ region) ++ (Color.reset ++ painted) =
        kept ++ '\x1b' :: (['[', '3', digit, 'm'] ++ behind) := by
      rw [start, otherStart] at same
      simpa using (List.cons.inj same).2
    have plain : '\x1b' ∉ ['[', '3', otherDigit, 'm'] ++ region := by
      simp [visible.symm, ordinary]
    obtain ⟨more, _, rest⟩ := exists_of_append_eq_escape plain behindFirst
    rw [reset] at rest
    cases more with
    | nil => simp at rest
    | cons d others =>
      have behindReset : ['[', '0', 'm'] ++ painted =
          others ++ '\x1b' :: (['[', '3', digit, 'm'] ++ behind) := (List.cons.inj rest).2
      obtain ⟨later, _, found⟩ := exists_of_append_eq_escape (by decide) behindReset
      refine ⟨later, ?_⟩
      rw [found, start]
      simp

theorem PaintedAs.endsColors {text painted : Text} (painting : PaintedAs text painted) :
    EndsColors painted := by
  induction painting with
  | nil =>
    intro before color behind same
    obtain ⟨digit, _, start⟩ := color.start_eq
    simp [start] at same
  | @plain c rest painted ordinary _ ih =>
    intro before color behind same
    obtain ⟨digit, _, start⟩ := color.start_eq
    have cut : [c] ++ painted = before ++ '\x1b' :: (['[', '3', digit, 'm'] ++ behind) := by
      rw [start] at same
      simpa using same
    obtain ⟨kept, _, found⟩ :=
      exists_of_append_eq_escape (by simpa using ordinary.symm) cut
    apply ih kept color behind
    rw [found, start]
    simp
  | region other ordinary unbroken _ ih =>
    intro before color behind same
    rcases exists_of_region_append_eq ordinary same with here | ⟨later, rest⟩
    · exact ⟨_, _, here, ordinary, unbroken⟩
    · exact ih later color behind rest

def Issue.texts (issue : Issue) : List Text := issue.fix.toList ++ issue.phrases

namespace Report

open Text (notMem_written notMem_ofNat)

variable {issue : Issue} {issues : List Issue} {name content reference fix : Text}

theorem paintedAs_written {characters : List Char} (ordinary : '\x1b' ∉ characters) :
    PaintedAs (String.ofList characters).toList (String.ofList characters).toList :=
  .of_ordinary (notMem_written ordinary)

theorem paintedAs_arrow : PaintedAs (arrow .plain) (arrow .colored) :=
  .paint .blue (by decide) (by decide)

theorem paintedAs_headline (ordinary : '\x1b' ∉ issue.message) :
    PaintedAs (headline .plain issue) (headline .colored issue) := by
  have mark : PaintedAs (marker issue.kind)
      (Style.colored.apply (markerColor issue.kind) (marker issue.kind)) := by
    cases issue.kind <;> exact .paint _ (by decide) (by decide)
  refine ((mark.append (paintedAs_written (by decide))).append (.of_ordinary ordinary)).append
    (.of_ordinary ?_)
  split
  · rename_i line _
    exact List.not_mem_append
      (List.not_mem_append (notMem_written (by decide)) (notMem_ofNat rfl line))
      (notMem_written (by decide))
  · exact notMem_written (by decide)

/-- An arrow with text behind it, as all details and their titles begin. -/
theorem paintedAs_pointed (ordinary : '\x1b' ∉ content) :
    PaintedAs ("  " ++ arrow .plain ++ content) ("  " ++ arrow .colored ++ content) :=
  ((paintedAs_written (by decide)).append paintedAs_arrow).append (.of_ordinary ordinary)

theorem paintedAs_detail (named : '\x1b' ∉ name) (ordinary : '\x1b' ∉ content) :
    PaintedAs (detail .plain name content) (detail .colored name content) := by
  have pointed : PaintedAs ("  " ++ arrow .plain ++ " ") ("  " ++ arrow .colored ++ " ") :=
    paintedAs_pointed (notMem_written (by decide))
  exact (((pointed.append (.of_ordinary named)).append (paintedAs_written (by decide))).append
    (.of_ordinary ordinary)).append (paintedAs_written (by decide))

/-- The lines of a fix are painted one by one, so none of them takes its colour to the next. -/
theorem paintedAs_fixLines (ordinary : '\x1b' ∉ fix) :
    PaintedAs (fixLines .plain fix) (fixLines .colored fix) := by
  have title : PaintedAs ("  " ++ arrow .plain ++ " Fix:\n") ("  " ++ arrow .colored ++ " Fix:\n") :=
    paintedAs_pointed (notMem_written (by decide))
  refine title.append (.flatMap fun line member => ?_)
  have painted : PaintedAs line (Color.cyan.paint line) :=
    .paint .cyan (fun inside => ordinary (Text.subset_of_mem_lines member inside))
      (Text.newline_notMem_of_mem_lines member)
  exact ((paintedAs_written (by decide)).append painted).append (paintedAs_written (by decide))

theorem paintedAs_referenceLines {references : List Text}
    (ordinary : ∀ reference ∈ references, '\x1b' ∉ reference) :
    PaintedAs (referenceLines .plain references) (referenceLines .colored references) := by
  rw [referenceLines, referenceLines]
  split
  · exact .nil
  · have title : PaintedAs ("  " ++ arrow .plain ++ " References:\n")
        ("  " ++ arrow .colored ++ " References:\n") :=
      paintedAs_pointed (notMem_written (by decide))
    refine title.append (.flatMap fun reference member => .of_ordinary ?_)
    exact List.not_mem_append
      (List.not_mem_append (notMem_written (by decide)) (ordinary reference member))
      (notMem_written (by decide))

theorem paintedAs_whenPresent {field : Option α} {plainly painting : α → Text}
    (each : ∀ value, field = some value → PaintedAs (plainly value) (painting value)) :
    PaintedAs (whenPresent field plainly) (whenPresent field painting) := by
  cases field with
  | none => exact .nil
  | some value => exact each value rfl

theorem paintedAs_block (ordinary : ∀ text ∈ issue.texts, '\x1b' ∉ text) :
    PaintedAs (block .plain issue) (block .colored issue) := by
  have message : '\x1b' ∉ issue.message :=
    ordinary _ (by simp [Issue.texts, Issue.phrases])
  have opened : PaintedAs ("\n" ++ headline .plain issue) ("\n" ++ headline .colored issue) :=
    (paintedAs_written (by decide)).append (paintedAs_headline message)
  refine (((opened.append (paintedAs_whenPresent ?_)).append (paintedAs_whenPresent ?_)).append
    (paintedAs_whenPresent ?_)).append (paintedAs_referenceLines ?_)
  · intro severity _
    exact paintedAs_detail (notMem_written (by decide)) (by cases severity <;> decide)
  · intro impact given
    exact paintedAs_detail (notMem_written (by decide))
      (ordinary _ (by simp [Issue.texts, Issue.phrases, given]))
  · intro fix given
    exact paintedAs_fixLines (ordinary _ (by simp [Issue.texts, given]))
  · intro reference member
    exact ordinary _ (by simp [Issue.texts, Issue.phrases, member])

theorem paintedAs_closing (count : Nat) : PaintedAs (closing .plain count) (closing .colored count) := by
  have check : PaintedAs "✓" (Color.green.paint "✓") := .paint .green (by decide) (by decide)
  have opened : PaintedAs ("\n[" ++ "✓" ++ "] Check complete: ")
      ("\n[" ++ Color.green.paint "✓" ++ "] Check complete: ") :=
    ((paintedAs_written (by decide)).append check).append (paintedAs_written (by decide))
  exact (opened.append (.of_ordinary (notMem_ofNat rfl count))).append (paintedAs_written (by decide))

theorem paintedAs_render (ordinary : ∀ issue ∈ issues, ∀ text ∈ issue.texts, '\x1b' ∉ text) :
    PaintedAs (render .plain issues) (render .colored issues) :=
  (PaintedAs.flatMap fun issue member => paintedAs_block (ordinary issue member)).append
    (paintedAs_closing issues.length)

theorem atLineStart_render (style : Style) (issues : List Issue) :
    Text.AtLineStart (render style issues) := by
  have ending : (" issues found\n" : Text) ≠ [] := List.cons_ne_nil _ _
  have nonempty : closing style issues.length ≠ [] := List.append_ne_nil_of_right_ne_nil _ ending
  refine .inr ?_
  rw [render, List.getLast?_append_of_ne_nil _ nonempty, closing,
    List.getLast?_append_of_ne_nil _ ending]
  rfl

/-- Colour is presentation only.  Of findings without an escape in their texts, the painted report is
the plain one once the colour sequences are taken out; it has as many lines, and every colour is reset
before its line ends. -/
theorem render_colored (issues : List Issue)
    (ordinary : ∀ issue ∈ issues, ∀ text ∈ issue.texts, '\x1b' ∉ text) :
    Text.withoutSequences (render .colored issues) = render .plain issues ∧
      (Text.lines (render .colored issues)).length = (Text.lines (render .plain issues)).length ∧
      EndsColors (render .colored issues) := by
  have painting := paintedAs_render ordinary
  refine ⟨painting.withoutSequences_eq, ?_, painting.endsColors⟩
  rw [Text.length_lines (atLineStart_render .colored issues),
    Text.length_lines (atLineStart_render .plain issues), painting.count_newline]

/-- Texts that look like part of a sequence, and a fix with an empty line. -/
theorem render_colored_fragments :
    let issue : Issue :=
      { kind := .warning, message := "[0m", fix := some "a[31m\n\nb", line := some 3 }
    let report : Text :=
      "\n[!] [0m (line 3)\n  → Fix:\n    a[31m\n    \n    b\n\n[✓] Check complete: 1 issues found\n"
    (∀ other ∈ [issue], ∀ text ∈ other.texts, '\x1b' ∉ text) ∧
      Text.withoutSequences (render .colored [issue]) = report ∧
      (Text.lines (render .colored [issue])).length = 8 ∧ EndsColors (render .colored [issue]) := by
  intro issue report
  have ordinary : ∀ other ∈ [issue], ∀ text ∈ other.texts, '\x1b' ∉ text := by
    refine List.forall_mem_singleton.mpr (List.forall_mem_cons.mpr ⟨by decide, ?_⟩)
    exact List.forall_mem_singleton.mpr (by decide)
  obtain ⟨same, lines, ends⟩ := render_colored [issue] ordinary
  have plain : render .plain [issue] = report := by decide +kernel
  have count : (Text.lines report).length = 8 := by decide +kernel
  rw [plain] at same lines
  exact ⟨ordinary, same, lines.trans count, ends⟩

end Report

end DockerfileLint
