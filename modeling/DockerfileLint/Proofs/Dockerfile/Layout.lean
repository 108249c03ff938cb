import DockerfileLint.Proofs.Dockerfile.BaseImage

namespace DockerfileLint

namespace Text

def IsPadding (blanks : Text) : Prop := ∀ c ∈ blanks, isBlank c = true ∧ c ≠ '\n'

/-- Two lines that hold the same text between their blanks. -/
inductive Repadded : Text → Text → Prop where
  | around (core : Text) {front back front' back' : Text} (unbroken : '\n' ∉ core)
      (frontPads : IsPadding front) (backPads : IsPadding back)
      (frontPads' : IsPadding front') (backPads' : IsPadding back') :
      Repadded (front ++ core ++ back) (front' ++ core ++ back')

variable {core front back left right : Text}

theorem isPadding_of_all {blanks : Text}
    (all : blanks.all (fun c => isBlank c && c != '\n') = true) : IsPadding blanks := by
  intro c member
  obtain ⟨blank, other⟩ := Bool.and_eq_true_iff.mp (List.all_eq_true.mp all c member)
  exact ⟨blank, bne_iff_ne.mp other⟩

theorem IsPadding.blank (pads : IsPadding front) : ∀ c ∈ front, isBlank c = true :=
  fun c member => (pads c member).1

theorem IsPadding.unbroken (pads : IsPadding front) : '\n' ∉ front :=
  fun member => (pads '\n' member).2 rfl

theorem trim_padded (frontPads : IsPadding front) (core : Text) (backPads : IsPadding back) :
    trim (front ++ core ++ back) = trim core := by
  rw [trim_append_blanks _ backPads.blank, trim_blanks_append frontPads.blank]

theorem newline_notMem_padded (frontPads : IsPadding front) (unbroken : '\n' ∉ core)
    (backPads : IsPadding back) : '\n' ∉ front ++ core ++ back := by
  simp [frontPads.unbroken, unbroken, backPads.unbroken]

namespace Repadded

theorem trim_eq (same : Repadded left right) : trim left = trim right := by
  cases same with
  | around _ unbroken frontPads backPads frontPads' backPads' =>
    rw [trim_padded frontPads _ backPads, trim_padded frontPads' _ backPads']

theorem unbroken (same : Repadded left right) : '\n' ∉ left ∧ '\n' ∉ right := by
  cases same with
  | around _ unbroken frontPads backPads frontPads' backPads' =>
    exact ⟨newline_notMem_padded frontPads unbroken backPads,
      newline_notMem_padded frontPads' unbroken backPads'⟩

end Repadded

end Text

namespace Dockerfile

variable {before comment : Text} {left right : List Text}

/-- A line with a comment moves what is completed behind it down and is not seen otherwise, whatever
is open where it stands. -/
theorem instructionsOf_comment (started : Text.AtLineStart before) (unbroken : '\n' ∉ comment)
    (first : (Text.trim comment).head? = some '#') (after : Text) :
    instructionsOf (before ++ (comment ++ '\n' :: after)) = (instructionsOf (before ++ after)).map
      (·.moveLine fun line => if before.count '\n' < line then line + 1 else line) := by
  apply instructionsOf_append_moved started
  rw [rolesOf_ended unbroken, LineRole.ofLine_comment first, ← readRoles_add]
  rfl

theorem rolesOf_repadded (same : List.Forall₂ Text.Repadded left right) :
    rolesOf (Text.ofLines left) = rolesOf (Text.ofLines right) := by
  induction same with
  | nil => rfl
  | cons here _ ih =>
    obtain ⟨unbrokenLeft, unbrokenRight⟩ := here.unbroken
    rw [Text.ofLines_cons, Text.ofLines_cons, rolesOf_ended unbrokenLeft,
      rolesOf_ended unbrokenRight, LineRole.ofLine_congr here.trim_eq, ih]

/-- Layout does not matter.  A comment put in before any line, also inside an open instruction,
only moves what is completed behind it down by one line; other blanks around any of the lines of a
text change nothing at all. -/
theorem parse_layout (path : Text) :
    (∀ before comment after : Text, Text.AtLineStart before → '\n' ∉ comment →
      (Text.trim comment).head? = some '#' →
      let plain := parse path (before ++ after)
      let commented := parse path (before ++ comment ++ ['\n'] ++ after)
      commented.baseImage = plain.baseImage ∧
        commented.instructions.map (·.unnumbered) = plain.instructions.map (·.unnumbered) ∧
        commented.instructions.map (·.line) = plain.instructions.map fun instruction =>
          if (Text.lines before).length < instruction.line then instruction.line + 1
          else instruction.line) ∧
      ∀ left right : List Text, List.Forall₂ Text.Repadded left right →
        parse path (Text.ofLines left) = parse path (Text.ofLines right) := by
  constructor
  · intro before comment after started unbroken first plain commented
    have moved := instructionsOf_comment started unbroken first after
    have text : before ++ comment ++ ['\n'] ++ after = before ++ (comment ++ '\n' :: after) := by
      simp
    rw [← Text.length_lines started, ← text] at moved
    exact parse_of_moveLine path moved
  · intro left right same
    rw [parse, parse, instructionsOf_eq_readRoles, rolesOf_repadded same,
      ← instructionsOf_eq_readRoles]

/-- A comment inside an open instruction, and lines that end in carriage returns or not. -/
theorem parse_layout_continued :
    Text.AtLineStart "RUN a \\\n" ∧ '\n' ∉ (" # note" : Text) ∧
      (Text.trim " # note").head? = some '#' ∧
      List.Forall₂ Text.Repadded ["RUN a \\\r", "\tb\r"] ["RUN a \\", "b"] ∧
      (let plain := parse [] ("RUN a \\\n" ++ "b\n")
      let commented := parse [] ("RUN a \\\n" ++ " # note" ++ ['\n'] ++ "b\n")
      commented.baseImage = plain.baseImage ∧
        commented.instructions.map (·.unnumbered) = plain.instructions.map (·.unnumbered) ∧
        commented.instructions.map (·.line) = plain.instructions.map fun instruction =>
          if (Text.lines "RUN a \\\n").length < instruction.line then instruction.line + 1
          else instruction.line) ∧
      parse [] (Text.ofLines ["RUN a \\\r", "\tb\r"]) =
        parse [] (Text.ofLines ["RUN a \\", "b"]) := by
  have started : Text.AtLineStart "RUN a \\\n" := .inr (by decide)
  have unbroken : '\n' ∉ (" # note" : Text) := by decide
  have first : (Text.trim " # note").head? = some '#' := by decide
  have nothing : Text.IsPadding [] := List.forall_mem_nil _
  have ending : Text.IsPadding ['\r'] := List.forall_mem_singleton.mpr (by decide)
  have tab : Text.IsPadding ['\t'] := List.forall_mem_singleton.mpr (by decide)
  have same : List.Forall₂ Text.Repadded ["RUN a \\\r", "\tb\r"] ["RUN a \\", "b"] :=
    .cons (.around "RUN a \\" (by decide) nothing ending nothing nothing)
      (.cons (.around "b" (by decide) tab ending nothing nothing) .nil)
  exact ⟨started, unbroken, first, same,
    (parse_layout []).1 _ _ "b\n" started unbroken first, (parse_layout []).2 _ _ same⟩

end Dockerfile

end DockerfileLint
