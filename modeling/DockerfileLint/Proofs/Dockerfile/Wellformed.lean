import DockerfileLint.Proofs.Dockerfile.Fragments

namespace DockerfileLint

namespace Instruction

/-- The source is a name that gives the keyword, a gap of blanks, and the arguments.  There is a gap
only before arguments. -/
structure SplitAs (instruction : Instruction) (name gap : Text) : Prop where
  source : instruction.source = name ++ gap ++ instruction.arguments
  keyword : instruction.keyword = Text.uppercase name
  named : name ≠ []
  visible : ∀ c ∈ name, Text.isBlank c = false
  blank : ∀ c ∈ gap, Text.isBlank c = true
  arguments : instruction.arguments = [] ∨ Text.Trimmed instruction.arguments
  tight : gap = [] ↔ instruction.arguments = []

variable {source : Text}

private theorem behindName (trimmed : Text.Trimmed source)
    (more : source.dropWhile (!Text.isBlank ·) ≠ []) :
    (source.dropWhile (!Text.isBlank ·)).takeWhile Text.isBlank ≠ [] ∧
      Text.EndsVisibly (source.dropWhile (!Text.isBlank ·)) := by
  refine ⟨?_, trimmed.ends.of_isSuffix (List.dropWhile_suffix _) more⟩
  have first := List.head?_dropWhile_not (!Text.isBlank ·) source
  obtain ⟨c, others, same⟩ := List.exists_cons_of_ne_nil more
  have blank : Text.isBlank c = true := by simpa [same] using first
  rw [same, List.takeWhile_cons_of_pos blank]
  exact List.cons_ne_nil c _

theorem splitAs_ofSource (line : Nat) (trimmed : Text.Trimmed source) :
    ∃ name gap, (ofSource line source).SplitAs name gap := by
  let name := source.takeWhile (!Text.isBlank ·)
  let rest := source.dropWhile (!Text.isBlank ·)
  have whole : name ++ rest = source := List.takeWhile_append_dropWhile
  have named : name ≠ [] := by
    obtain ⟨c, others, rfl⟩ := List.exists_cons_of_ne_nil trimmed.ne_nil
    obtain ⟨d, first, visible⟩ := trimmed.starts
    obtain rfl : c = d := Option.some.inj first
    simp [name, visible]
  have visible : ∀ c ∈ name, Text.isBlank c = false :=
    fun c member => by simpa using List.mem_takeWhile_imp member
  by_cases bare : rest = []
  · have nothing : (ofSource line source).arguments = [] := by
      change Text.trim rest = []
      rw [bare]
      rfl
    refine ⟨name, [], ?_, rfl, named, visible, List.forall_mem_nil _, .inl nothing, ?_⟩
    · rw [nothing, List.append_nil, List.append_nil, ← whole, bare, List.append_nil]
      rfl
    · rw [nothing]
  · obtain ⟨gap, ends⟩ := behindName trimmed bare
    have arguments : (ofSource line source).arguments = Text.trim rest := rfl
    have kept : Text.trim rest ≠ [] := by
      rw [ends.trim_eq]
      exact ends.trimStart_ne_nil
    refine ⟨name, rest.takeWhile Text.isBlank, ?_, rfl, named, visible,
      fun c => List.mem_takeWhile_imp, .inr (Text.trimmed_trim kept), ?_⟩
    · rw [arguments, ends.trim_eq, List.append_assoc, Text.trimStart,
        List.takeWhile_append_dropWhile, whole]
      rfl
    · rw [arguments]
      exact iff_of_false gap kept

end Instruction

namespace LineRole

/-- A line completes at most one instruction, so the order of those is no question. -/
theorem pairwise_completed (relation : Instruction → Instruction → Prop) (role : LineRole)
    (line : Nat) (pending : List Text) : (role.completed line pending).Pairwise relation := by
  cases role with
  | blank =>
    rw [completed]
    split
    · exact .nil
    · exact List.pairwise_singleton _ _
  | comment => exact .nil
  | continued fragment => exact .nil
  | final fragment => exact List.pairwise_singleton _ _

end LineRole

namespace Dockerfile

theorem pairwise_line_readRoles (line : Nat) (pending : List Text) (roles : List LineRole) :
    (readRoles line pending roles).Pairwise (·.line < ·.line) := by
  induction roles generalizing line pending with
  | nil => exact .nil
  | cons role rest ih =>
    rw [readRoles, List.pairwise_append]
    refine ⟨role.pairwise_completed _ line pending, ih (line + 1) (role.advance pending), ?_⟩
    intro here first later second
    have same := LineRole.line_of_mem_completed first
    have bounds := line_of_mem_readRoles second
    omega

theorem trim_arguments_of_mem_parse {path content : Text} {instruction : Instruction}
    (member : instruction ∈ (parse path content).instructions) :
    Text.trim instruction.arguments = instruction.arguments := by
  rw [parse_instructions] at member
  rw [(source_of_mem_instructionsOf member).2]
  exact Text.trim_trim _

/-- Every instruction of every text: later ones end on later lines, all within the text; a source is
a line of text that is trimmed and no comment; and its name, with the blanks behind it, and the
arguments make up the source. -/
theorem parse_instructions_wellformed (path content : Text) :
    (parse path content).instructions.Pairwise (·.line < ·.line) ∧
      ∀ instruction ∈ (parse path content).instructions,
        (1 ≤ instruction.line ∧ instruction.line ≤ (Text.lines content).length) ∧
          IsSource instruction.source ∧ ∃ name gap, instruction.SplitAs name gap := by
  rw [parse_instructions]
  constructor
  · rw [instructionsOf_eq_readRoles]
    exact pairwise_line_readRoles 1 [] (rolesOf content)
  · intro instruction member
    obtain ⟨source, same⟩ := source_of_mem_instructionsOf member
    refine ⟨line_of_mem_instructionsOf member, source, ?_⟩
    rw [same]
    exact Instruction.splitAs_ofSource _ source.trimmed

/-- An instruction over two lines, with more than one blank behind its name. -/
theorem parse_instructions_wellformed_run :
    let content : Text := "run  a \\\n\tb\r\n"
    let run : Instruction := ⟨"RUN", "a b", 2, "run  a b"⟩
    run ∈ (parse [] content).instructions ∧
      (1 ≤ run.line ∧ run.line ≤ (Text.lines content).length) ∧
        IsSource run.source ∧ ∃ name gap, run.SplitAs name gap := by
  intro content run
  have member : run ∈ (parse [] content).instructions := by
    rw [parse_instructions]
    decide
  exact ⟨member, (parse_instructions_wellformed [] content).2 run member⟩

end Dockerfile

end DockerfileLint
