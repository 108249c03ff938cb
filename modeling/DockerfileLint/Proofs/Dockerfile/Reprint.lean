import DockerfileLint.Proofs.Dockerfile.BaseImage
import DockerfileLint.Proofs.Dockerfile.Fragments

/-! Printing the sources of a Dockerfile and reading them again.  A source on a line of its own is
read as it is unless it ends in a backslash, which would swallow the next line.  With one more
backslash and an empty line behind it every source comes back. -/

namespace DockerfileLint

namespace IsSource

variable {source : Text}

theorem ofLine_eq (valid : IsSource source) :
    LineRole.ofLine source = if source.getLast? = some '\\'
      then .continued (Text.trimEnd source.dropLast) else .final source := by
  have kept := valid.trimmed.trim_eq
  rw [LineRole.ofLine_visible (by rw [kept]; exact valid.ne_nil) (by rw [kept]; exact valid.visible),
    kept]

/-- A backslash behind a source continues it and leaves it as it is. -/
theorem ofLine_backslash (valid : IsSource source) :
    LineRole.ofLine (source ++ ['\\']) = .continued source := by
  have trimmed : Text.Trimmed (source ++ ['\\']) :=
    ⟨valid.trimmed.starts.append ['\\'], Text.EndsVisibly.append ⟨'\\', rfl, by decide⟩ source⟩
  have visible : (source ++ ['\\']).head? ≠ some '#' := by
    obtain ⟨c, rest, rfl⟩ := List.exists_cons_of_ne_nil valid.ne_nil
    exact valid.visible
  rw [LineRole.ofLine_visible (by rw [trimmed.trim_eq]; exact trimmed.ne_nil)
    (by rw [trimmed.trim_eq]; exact visible), trimmed.trim_eq, if_pos List.getLast?_concat,
    List.dropLast_concat, Text.trimEnd_of_ends valid.trimmed.ends]

end IsSource

namespace Dockerfile

def printClosed (sources : List Text) : Text := sources.flatMap (· ++ ['\\', '\n', '\n'])

def printPlain (sources : List Text) : Text := sources.flatMap (· ++ ['\n'])

variable {sources : List Text}

private theorem rolesOf_printClosed (valid : ∀ source ∈ sources, IsSource source) :
    rolesOf (printClosed sources) =
      sources.flatMap fun source => [.continued source, .blank] := by
  induction sources with
  | nil => rfl
  | cons source rest ih =>
    obtain ⟨first, later⟩ := List.forall_mem_cons.mp valid
    have unbroken : '\n' ∉ source ++ ['\\'] := by simp [first.unbroken]
    have cut : printClosed (source :: rest) =
        (source ++ ['\\']) ++ '\n' :: ([] ++ '\n' :: printClosed rest) := by
      simp [printClosed]
    rw [cut, rolesOf_ended unbroken, rolesOf_ended List.not_mem_nil, first.ofLine_backslash,
      ih later]
    rfl

private theorem rolesOf_printPlain (valid : ∀ source ∈ sources, IsSource source) :
    rolesOf (printPlain sources) = sources.map LineRole.ofLine :=
  rolesOf_ofLines fun source member => (valid source member).unbroken

private theorem joinFragments_singleton (line : Nat) (source : Text) :
    joinFragments line [source] = Instruction.ofSource line source := by
  rw [joinFragments, Text.joinWith_singleton]

/-- What is read from a source, wherever it stands. -/
def sourceParts (source : Text) : Text × Text × Text := (Instruction.ofSource 0 source).unnumbered

private theorem unnumbered_readRoles_closed (line : Nat) (nonempty : ∀ source ∈ sources, source ≠ []) :
    (readRoles line [] (sources.flatMap fun source => [.continued source, .blank])).map
        (·.unnumbered) = sources.map sourceParts := by
  induction sources generalizing line with
  | nil => rfl
  | cons source rest ih =>
    obtain ⟨first, later⟩ := List.forall_mem_cons.mp nonempty
    have next := ih (line + 1 + 1) later
    have opened : LineRole.advance [] (.continued source) = [source] := if_neg first
    rw [List.flatMap_cons, List.cons_append, List.singleton_append, readRoles, readRoles, opened,
      LineRole.completed, LineRole.completed, if_neg (List.cons_ne_nil source []),
      joinFragments_singleton, List.nil_append, List.singleton_append, List.map_cons,
      LineRole.advance, next]
    rfl

private theorem readRoles_sources (line : Nat) (valid : ∀ source ∈ sources, IsSource source)
    (closed : ∀ source ∈ sources, source.getLast? ≠ some '\\') :
    readRoles line [] (sources.map LineRole.ofLine) =
      (sources.zipIdx line).map fun numbered => Instruction.ofSource numbered.2 numbered.1 := by
  induction sources generalizing line with
  | nil => rfl
  | cons source rest ih =>
    obtain ⟨first, validRest⟩ := List.forall_mem_cons.mp valid
    obtain ⟨ending, closedRest⟩ := List.forall_mem_cons.mp closed
    have next := ih (line + 1) validRest closedRest
    rw [List.map_cons, first.ofLine_eq, if_neg ending, readRoles, LineRole.completed,
      LineRole.advance, next, List.nil_append, joinFragments_singleton]
    rfl

theorem instructionsOf_line {source : Text} (valid : IsSource source)
    (closed : source.getLast? ≠ some '\\') :
    instructionsOf (source ++ ['\n']) = [Instruction.ofSource 1 source] := by
  have printed : source ++ ['\n'] = printPlain [source] := by
    rw [printPlain, List.flatMap_cons, List.flatMap_nil, List.append_nil]
  have one : ∀ other ∈ [source], IsSource other := List.forall_mem_singleton.mpr valid
  have last : ∀ other ∈ [source], other.getLast? ≠ some '\\' := List.forall_mem_singleton.mpr closed
  rw [printed, instructionsOf_eq_readRoles, rolesOf_printPlain one, readRoles_sources 1 one last]
  rfl

/-- Lines that are sources complete one instruction each, but for those with a backslash. -/
private theorem length_readRoles_sources (line : Nat) (pending : List Text)
    (valid : ∀ source ∈ sources, IsSource source) :
    (readRoles line pending (sources.map LineRole.ofLine)).length =
      sources.countP fun source => source.getLast? ≠ some '\\' := by
  induction sources generalizing line pending with
  | nil => rfl
  | cons source rest ih =>
    obtain ⟨first, later⟩ := List.forall_mem_cons.mp valid
    have counted := ih (line + 1) ((LineRole.ofLine source).advance pending) later
    rw [List.map_cons, readRoles, List.length_append, counted, List.countP_cons, first.ofLine_eq]
    by_cases continues : source.getLast? = some '\\'
    · simp [continues, LineRole.completed]
    · simp [continues, LineRole.completed, Nat.add_comm]

theorem unnumbered_instructionsOf_printClosed (valid : ∀ source ∈ sources, IsSource source) :
    (instructionsOf (printClosed sources)).map (·.unnumbered) = sources.map sourceParts := by
  rw [instructionsOf_eq_readRoles, rolesOf_printClosed valid]
  exact unnumbered_readRoles_closed 1 fun source member => (valid source member).ne_nil

theorem unnumbered_instructionsOf_printPlain_iff (valid : ∀ source ∈ sources, IsSource source) :
    (instructionsOf (printPlain sources)).map (·.unnumbered) = sources.map sourceParts ↔
      ∀ source ∈ sources, source.getLast? ≠ some '\\' := by
  rw [instructionsOf_eq_readRoles, rolesOf_printPlain valid]
  constructor
  · intro same
    -- A swallowed line leaves fewer instructions than there are sources.
    have lengths := congrArg List.length same
    rw [List.length_map, List.length_map, length_readRoles_sources 1 [] valid,
      List.countP_eq_length] at lengths
    intro source member
    simpa using lengths source member
  · intro closed
    rw [readRoles_sources 1 valid closed, List.map_map]
    have parts := congrArg (List.map sourceParts) (List.zipIdx_map_fst 1 sources)
    rw [List.map_map] at parts
    exact parts

theorem line_instructionsOf_printPlain (valid : ∀ source ∈ sources, IsSource source)
    (closed : ∀ source ∈ sources, source.getLast? ≠ some '\\') :
    (instructionsOf (printPlain sources)).map (·.line) = List.range' 1 sources.length := by
  rw [instructionsOf_eq_readRoles, rolesOf_printPlain valid, readRoles_sources 1 valid closed,
    List.map_map]
  exact List.zipIdx_map_snd 1 sources

theorem unnumbered_instructionsOf (content : Text) :
    (instructionsOf content).map (·.unnumbered) =
      ((instructionsOf content).map (·.source)).map sourceParts := by
  rw [List.map_map]
  apply List.map_congr_left
  intro instruction member
  calc instruction.unnumbered
      = (Instruction.ofSource instruction.line instruction.source).unnumbered :=
        congrArg Instruction.unnumbered (source_of_mem_instructionsOf member).2
    _ = sourceParts instruction.source := rfl

/-- Printing the sources of a Dockerfile and reading them again.  Closed by a backslash and an empty
line they always come back; on lines of their own they come back, one on each line, if and only if
none of them ends in a backslash. -/
theorem parse_print_sources (path content : Text) :
    let original := parse path content
    let sources := original.instructions.map (·.source)
    let closed := parse path (printClosed sources)
    let plain := parse path (printPlain sources)
    (closed.instructions.map (·.unnumbered) = original.instructions.map (·.unnumbered) ∧
        closed.baseImage = original.baseImage) ∧
      (plain.instructions.map (·.unnumbered) = original.instructions.map (·.unnumbered) ∧
          plain.instructions.map (·.line) = List.range' 1 sources.length ↔
        ∀ source ∈ sources, source.getLast? ≠ some '\\') := by
  intro original sources closed plain
  have valid : ∀ source ∈ sources, IsSource source := by
    intro source member
    obtain ⟨instruction, present, rfl⟩ := List.mem_map.mp member
    rw [parse_instructions] at present
    exact (source_of_mem_instructionsOf present).1
  have parts : original.instructions.map (·.unnumbered) = sources.map sourceParts := by
    simpa only [original, sources, parse_instructions] using unnumbered_instructionsOf content
  constructor
  · have same : closed.instructions.map (·.unnumbered) =
        original.instructions.map (·.unnumbered) := by
      rw [parts, parse_instructions]
      exact unnumbered_instructionsOf_printClosed valid
    refine ⟨same, ?_⟩
    rw [parse_instructions, parse_instructions] at same
    exact ofInstructions_baseImage_congr same
  · rw [parts, parse_instructions]
    constructor
    · intro both
      exact (unnumbered_instructionsOf_printPlain_iff valid).mp both.1
    · intro unescaped
      exact ⟨(unnumbered_instructionsOf_printPlain_iff valid).mpr unescaped,
        line_instructionsOf_printPlain valid unescaped⟩

/-- The first source ends in a backslash, for only the last one of a line is dropped.  It comes back
when it is closed, and on a line of its own it swallows the next line.  Without it nothing is lost. -/
theorem parse_print_sources_backslash :
    let ended := parse [] "FROM a\\\\\n\nUSER b\n"
    let sources := ended.instructions.map (·.source)
    let closed := parse [] (printClosed sources)
    let plain := parse [] (printPlain sources)
    let other := parse [] "FROM a \\\n\n# note\nUSER b\n"
    let otherPlain := parse [] (printPlain (other.instructions.map (·.source)))
    sources = [("FROM a\\" : Text), ("USER b" : Text)] ∧
      closed.instructions.map (·.unnumbered) = ended.instructions.map (·.unnumbered) ∧
      closed.baseImage = ("a\\" : Text) ∧
      ¬(plain.instructions.map (·.unnumbered) = ended.instructions.map (·.unnumbered) ∧
        plain.instructions.map (·.line) = List.range' 1 sources.length) ∧
      plain.instructions.map (·.source) = [("FROM a USER b" : Text)] ∧
      otherPlain.instructions.map (·.unnumbered) = other.instructions.map (·.unnumbered) ∧
      otherPlain.instructions.map (·.line) = [1, 2] := by
  intro ended sources closed plain other otherPlain
  have read : sources = [("FROM a\\" : Text), ("USER b" : Text)] := by decide +kernel
  obtain ⟨⟨same, image⟩, unescaped⟩ := parse_print_sources [] "FROM a\\\\\n\nUSER b\n"
  obtain ⟨_, otherUnescaped⟩ := parse_print_sources [] "FROM a \\\n\n# note\nUSER b\n"
  obtain ⟨otherSame, lines⟩ := otherUnescaped.mpr (by decide +kernel)
  refine ⟨read, same, image.trans (by decide +kernel), ?_, by decide +kernel, otherSame,
    lines.trans (by decide +kernel)⟩
  intro both
  have backslash : ("FROM a\\" : Text) ∈ sources := by rw [read]; exact .head _
  exact unescaped.mp both _ backslash rfl

end Dockerfile

end DockerfileLint
