import DockerfileLint.Proofs.Dockerfile.BaseImage
import DockerfileLint.Proofs.Dockerfile.Fragments

namespace DockerfileLint

namespace LineRole

def behind (text : Text) : LineRole → LineRole
  | .blank => .blank
  | .comment => .comment
  | .continued fragment =>
    .continued (if fragment = [] then text else text ++ [' '] ++ fragment)
  | .final fragment => .final (text ++ [' '] ++ fragment)

variable {front back gap pad : Text}

/-- A backslash continues a line without any trace of it or of the blanks around it. -/
theorem ofLine_continued (ends : Text.EndsVisibly front)
    (visible : (Text.trim front).head? ≠ some '#') (gapBlank : ∀ c ∈ gap, Text.isBlank c = true)
    (padBlank : ∀ c ∈ pad, Text.isBlank c = true) :
    ofLine (front ++ gap ++ ['\\'] ++ pad) = .continued (Text.trimStart front) := by
  have kept : Text.trim (front ++ gap ++ ['\\'] ++ pad) =
      Text.trimStart front ++ gap ++ ['\\'] := by
    rw [Text.trim_append_blanks _ padBlank, Text.trim, List.append_assoc,
      Text.trimStart_append ends.trimStart_ne_nil, ← List.append_assoc,
      Text.trimEnd_append _ (by decide)]
    rfl
  have first : (Text.trim (front ++ gap ++ ['\\'] ++ pad)).head? ≠ some '#' := by
    rw [List.append_assoc, List.append_assoc, ends.head?_trim_append]
    exact visible
  have nonempty : Text.trim (front ++ gap ++ ['\\'] ++ pad) ≠ [] := by
    rw [kept]
    simp
  rw [ofLine_visible nonempty first, kept, if_pos List.getLast?_concat, List.dropLast_concat,
    Text.trimEnd_append_blanks _ gapBlank,
    Text.trimEnd_of_ends ends.trimStart]

theorem ofLine_starts (starts : Text.StartsVisibly back) (visible : back.head? ≠ some '#') :
    ofLine back = if (Text.trimEnd back).getLast? = some '\\'
      then .continued (Text.trimEnd (Text.trimEnd back).dropLast) else .final (Text.trimEnd back) := by
  have nonempty : Text.trim back ≠ [] := by
    rw [starts.trim_eq]
    exact starts.trimEnd_ne_nil
  have first : (Text.trim back).head? ≠ some '#' := by
    rw [starts.trim_eq, starts.head?_trimEnd]
    exact visible
  rw [ofLine_visible nonempty first, starts.trim_eq]

/-- A line that goes on behind a space has the role of what stands there. -/
theorem ofLine_behind (ends : Text.EndsVisibly front)
    (frontVisible : (Text.trim front).head? ≠ some '#') (starts : Text.StartsVisibly back)
    (backVisible : back.head? ≠ some '#') :
    ofLine (front ++ [' '] ++ back) = (ofLine back).behind (Text.trimStart front) := by
  obtain ⟨rest, c, same⟩ :=
    (List.eq_nil_or_concat' (Text.trimEnd back)).resolve_left starts.trimEnd_ne_nil
  have kept : Text.trim (front ++ [' '] ++ back) =
      Text.trimStart front ++ [' '] ++ rest ++ [c] := by
    rw [Text.trim, List.append_assoc, Text.trimStart_append ends.trimStart_ne_nil,
      ← List.append_assoc, Text.trimEnd_append _ starts.trimEnd_ne_nil, same,
      ← List.append_assoc]
  have first : (Text.trim (front ++ [' '] ++ back)).head? ≠ some '#' := by
    rw [List.append_assoc, ends.head?_trim_append]
    exact frontVisible
  have nonempty : Text.trim (front ++ [' '] ++ back) ≠ [] := by
    rw [kept]
    simp
  rw [ofLine_visible nonempty first, ofLine_starts starts backVisible, kept, same]
  simp only [List.getLast?_concat, List.dropLast_concat]
  by_cases continues : some c = some '\\'
  · rw [if_pos continues, if_pos continues, behind]
    by_cases lone : Text.trimEnd rest = []
    · have blank : ∀ d ∈ [' '] ++ rest, Text.isBlank d = true :=
        List.forall_mem_append.mpr ⟨List.forall_mem_singleton.mpr rfl, Text.trimEnd_eq_nil.mp lone⟩
      rw [if_pos lone, List.append_assoc, Text.trimEnd_append_blanks _ blank,
        Text.trimEnd_of_ends ends.trimStart]
    · rw [if_neg lone, Text.trimEnd_append _ lone]
  · rw [if_neg continues, if_neg continues, behind, ← List.append_assoc]

end LineRole

/-- Two fragments in a row are no different from one that holds both with a space between. -/
theorem SameOpen.split (pending : List Text) (front back : Text) :
    SameOpen (pending ++ [front] ++ [back]) (pending ++ [front ++ [' '] ++ back]) := by
  have two : SameOpen ([front] ++ [back]) [front ++ [' '] ++ back] := by
    constructor
    · rw [Text.joinWith_append [' '] (List.cons_ne_nil front []) (List.cons_ne_nil back []),
        Text.joinWith_singleton, Text.joinWith_singleton, Text.joinWith_singleton]
    · simp
  rw [List.append_assoc]
  exact (SameOpen.refl pending).append two

namespace Dockerfile

/-- Breaking a line moves everything from its instruction on one line down. -/
theorem readRoles_break {front back : Text} (nonempty : front ≠ [])
    (starts : Text.StartsVisibly back) (visible : back.head? ≠ some '#') (line : Nat)
    (pending : List Text) (rest : List LineRole) :
    readRoles line pending (.continued front :: LineRole.ofLine back :: rest) =
      (readRoles line pending ((LineRole.ofLine back).behind front :: rest)).map
        (·.moveLine (· + 1)) := by
  rw [← readRoles_add, readRoles, readRoles, readRoles, LineRole.completed, List.nil_append,
    LineRole.advance, if_neg nonempty, LineRole.ofLine_starts starts visible]
  split
  · rw [LineRole.behind, LineRole.completed, LineRole.completed, LineRole.advance, LineRole.advance]
    by_cases lone : Text.trimEnd (Text.trimEnd back).dropLast = []
    · rw [if_pos lone, if_pos lone, if_neg nonempty]
    · rw [if_neg lone, if_neg lone, if_neg (by simp),
        (SameOpen.split pending front _).readRoles]
  · rw [LineRole.behind, LineRole.completed, LineRole.completed,
      (SameOpen.split pending front _).joinFragments]
    rfl

/-- A line that may be broken at a space: the part in front ends right before the space and is no
comment, and the part behind starts right after it and would be none. -/
structure Breakable (front back : Text) : Prop where
  frontUnbroken : '\n' ∉ front
  frontEnds : Text.EndsVisibly front
  frontVisible : (Text.trim front).head? ≠ some '#'
  backUnbroken : '\n' ∉ back
  backStarts : Text.StartsVisibly back
  backVisible : back.head? ≠ some '#'

variable {before front back indent after : Text}

private theorem rolesOf_joined (breakable : Breakable front back) (ended : Text.AtLineEnd after) :
    rolesOf (front ++ [' '] ++ back ++ after) =
      (LineRole.ofLine back).behind (Text.trimStart front) :: rolesOf after.tail := by
  have unbroken : '\n' ∉ front ++ [' '] ++ back := by
    simp [breakable.frontUnbroken, breakable.backUnbroken]
  have begun : front ++ [' '] ++ back ≠ [] := by simp
  rw [rolesOf_line unbroken begun ended, LineRole.ofLine_behind breakable.frontEnds
    breakable.frontVisible breakable.backStarts breakable.backVisible]

private theorem rolesOf_broken (breakable : Breakable front back) (ended : Text.AtLineEnd after)
    (indentBlank : ∀ c ∈ indent, Text.isBlank c = true) (indentUnbroken : '\n' ∉ indent) :
    rolesOf (front ++ [' ', '\\', '\n'] ++ indent ++ back ++ after) =
      .continued (Text.trimStart front) :: LineRole.ofLine back :: rolesOf after.tail := by
  have unbroken : '\n' ∉ front ++ [' ', '\\'] := by simp [breakable.frontUnbroken]
  have nextUnbroken : '\n' ∉ indent ++ back := by simp [indentUnbroken, breakable.backUnbroken]
  have nextBegun : indent ++ back ≠ [] := by simp [breakable.backStarts.ne_nil]
  have cut : front ++ [' ', '\\', '\n'] ++ indent ++ back ++ after =
      (front ++ [' ', '\\']) ++ '\n' :: (indent ++ back ++ after) := by simp
  have continued : LineRole.ofLine (front ++ [' ', '\\']) =
      .continued (Text.trimStart front) := by
    have marked := LineRole.ofLine_continued breakable.frontEnds breakable.frontVisible
      (List.forall_mem_singleton.mpr (rfl : Text.isBlank ' ' = true)) (List.forall_mem_nil _)
    rwa [List.append_nil, List.append_assoc] at marked
  rw [cut, rolesOf_ended unbroken, continued, rolesOf_line nextUnbroken nextBegun ended,
    LineRole.ofLine_congr (Text.trim_blanks_append indentBlank back)]

theorem instructionsOf_break (started : Text.AtLineStart before) (breakable : Breakable front back)
    (ended : Text.AtLineEnd after) (indentBlank : ∀ c ∈ indent, Text.isBlank c = true)
    (indentUnbroken : '\n' ∉ indent) :
    instructionsOf (before ++ front ++ [' ', '\\', '\n'] ++ indent ++ back ++ after) =
      (instructionsOf (before ++ front ++ [' '] ++ back ++ after)).map
        (·.moveLine fun line => if before.count '\n' < line then line + 1 else line) := by
  have down := readRoles_break breakable.frontEnds.trimStart_ne_nil breakable.backStarts
    breakable.backVisible 1 (openAfter [] (rolesOf before)) (rolesOf after.tail)
  rw [← rolesOf_broken breakable ended indentBlank indentUnbroken,
    ← rolesOf_joined breakable ended] at down
  simpa only [List.append_assoc] using instructionsOf_append_moved started down

/-- Breaking a line at a space with a backslash, and indenting the rest at will, moves the
instructions that are completed on that line or later down by one line and changes nothing else. -/
theorem parse_break (path : Text) (started : Text.AtLineStart before)
    (breakable : Breakable front back) (ended : Text.AtLineEnd after)
    (indentBlank : ∀ c ∈ indent, Text.isBlank c = true) (indentUnbroken : '\n' ∉ indent) :
    let joined := parse path (before ++ front ++ [' '] ++ back ++ after)
    let broken := parse path (before ++ front ++ [' ', '\\', '\n'] ++ indent ++ back ++ after)
    broken.baseImage = joined.baseImage ∧
      broken.instructions.map (·.unnumbered) = joined.instructions.map (·.unnumbered) ∧
      broken.instructions.map (·.line) = joined.instructions.map fun instruction =>
        if before.count '\n' < instruction.line then instruction.line + 1 else instruction.line := by
  intro joined broken
  have instructions : broken.instructions = joined.instructions.map (·.moveLine fun line =>
      if before.count '\n' < line then line + 1 else line) := by
    rw [parse_instructions, parse_instructions]
    exact instructionsOf_break started breakable ended indentBlank indentUnbroken
  have unnumbered : broken.instructions.map (·.unnumbered) =
      joined.instructions.map (·.unnumbered) := by
    rw [instructions]
    exact Instruction.map_unnumbered_moveLine _ _
  refine ⟨?_, unnumbered, ?_⟩
  · rw [parse_instructions, parse_instructions] at unnumbered
    exact ofInstructions_baseImage_congr unnumbered
  · rw [instructions, List.map_map]
    rfl

/-- The break may stand behind a backslash and before a lone one, inside an open instruction. -/
theorem parse_break_backslashes :
    Text.AtLineStart "RUN a \\\n" ∧ Breakable "b\\" "\\" ∧ Text.AtLineEnd "\nc" ∧
      (∀ c ∈ ("\t" : Text), Text.isBlank c = true) ∧ '\n' ∉ ("\t" : Text) ∧
      let joined := parse [] ("RUN a \\\n" ++ "b\\" ++ [' '] ++ "\\" ++ "\nc")
      let broken := parse [] ("RUN a \\\n" ++ "b\\" ++ [' ', '\\', '\n'] ++ "\t" ++ "\\" ++ "\nc")
      broken.baseImage = joined.baseImage ∧
        broken.instructions.map (·.unnumbered) = joined.instructions.map (·.unnumbered) ∧
        broken.instructions.map (·.line) = joined.instructions.map fun instruction =>
          if ("RUN a \\\n" : Text).count '\n' < instruction.line then instruction.line + 1
          else instruction.line := by
  have started : Text.AtLineStart "RUN a \\\n" := .inr (by decide)
  have breakable : Breakable "b\\" "\\" :=
    { frontUnbroken := by decide
      frontEnds := ⟨'\\', by decide, by decide⟩
      frontVisible := by decide
      backUnbroken := by decide
      backStarts := ⟨'\\', by decide, by decide⟩
      backVisible := by decide }
  have ended : Text.AtLineEnd "\nc" := .inr (by decide)
  have blank : ∀ c ∈ ("\t" : Text), Text.isBlank c = true := List.forall_mem_singleton.mpr rfl
  have unbroken : '\n' ∉ ("\t" : Text) := by decide
  exact ⟨started, breakable, ended, blank, unbroken,
    parse_break [] started breakable ended blank unbroken⟩

end Dockerfile

end DockerfileLint
