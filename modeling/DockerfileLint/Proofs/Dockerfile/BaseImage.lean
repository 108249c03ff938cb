import DockerfileLint.Proofs.Dockerfile.Reading
import DockerfileLint.Proofs.Text.Words

namespace DockerfileLint

/-- An alias makes no difference: the image of a stage is the first word, also an `AS`. -/
theorem Dockerfile.stageImage_eq_headD (arguments : Text) :
    stageImage arguments = (Text.words arguments).headD [] := by
  rw [stageImage]
  cases Text.words arguments with
  | nil => rfl
  | cons first rest =>
    rw [List.takeWhile_cons]
    cases Text.sameIgnoringCase "AS" first with
    | true => rfl
    | false => rfl

namespace Instruction

/-- Everything of an instruction but its place in the text. -/
def unnumbered (instruction : Instruction) : Text × Text × Text :=
  (instruction.keyword, instruction.arguments, instruction.source)

/-- The image that an instruction names for a stage; it is empty unless a `FROM` names one. -/
def namedImage (instruction : Instruction) : Text :=
  if instruction.is "FROM" then Dockerfile.stageImage instruction.arguments else []

/-- An instruction names an image if it is a `FROM` with any argument. -/
theorem namedImage_ne_nil_iff {instruction : Instruction} :
    instruction.namedImage ≠ [] ↔ instruction.is "FROM" = true ∧ instruction.tokens ≠ [] := by
  rw [namedImage, Dockerfile.stageImage_eq_headD, tokens]
  cases words : Text.words instruction.arguments with
  | nil => simp
  | cons first rest =>
    have kept : first ≠ [] := Text.ne_nil_of_mem_words (words ▸ List.mem_cons_self)
    simp [kept]

theorem head?_tokens_of_namedImage {instruction : Instruction}
    (names : instruction.namedImage ≠ []) :
    instruction.tokens.head? = some instruction.namedImage := by
  obtain ⟨stage, some⟩ := namedImage_ne_nil_iff.mp names
  obtain ⟨first, rest, words⟩ := List.exists_cons_of_ne_nil some
  have image : instruction.namedImage = first := by
    rw [namedImage, if_pos stage, Dockerfile.stageImage_eq_headD]
    exact congrArg (·.headD []) words
  rw [words, image, List.head?_cons]

theorem namedImage_congr {left right : Instruction} (same : left.unnumbered = right.unnumbered) :
    left.namedImage = right.namedImage := by
  have keywords : left.keyword = right.keyword := congrArg Prod.fst same
  have arguments : left.arguments = right.arguments := congrArg (·.2.1) same
  rw [namedImage, Instruction.is, keywords, arguments]
  rfl

theorem map_unnumbered_moveLine (move : Nat → Nat) (instructions : List Instruction) :
    (instructions.map (·.moveLine move)).map unnumbered = instructions.map unnumbered := by
  rw [List.map_map]
  rfl

end Instruction

namespace Dockerfile

variable {path other : Text} {left right : List Instruction}

theorem stageImage_mem_words (arguments : Text) :
    stageImage arguments = [] ∨ stageImage arguments ∈ Text.words arguments := by
  rw [stageImage_eq_headD]
  cases Text.words arguments with
  | nil => exact .inl rfl
  | cons first rest => exact .inr List.mem_cons_self

theorem push_baseImage (dockerfile : Dockerfile) (instruction : Instruction) :
    (dockerfile.push instruction).baseImage =
      if dockerfile.baseImage = [] then instruction.namedImage else dockerfile.baseImage := by
  by_cases known : dockerfile.baseImage = []
  · rw [if_pos known, push, Instruction.namedImage]
    by_cases stage : instruction.is "FROM" = true
    · rw [if_pos stage]
      exact if_pos ⟨stage, List.isEmpty_iff.mpr known⟩
    · rw [if_neg stage, ← known]
      exact if_neg fun both => stage both.1
  · rw [if_neg known, push_baseImage_of_ne_nil known]

private theorem foldl_push_baseImage (dockerfile : Dockerfile) (instructions : List Instruction) :
    (instructions.foldl push dockerfile).baseImage =
      if dockerfile.baseImage = [] then
        ((instructions.map (·.namedImage)).find? (· ≠ [])).getD []
      else dockerfile.baseImage := by
  induction instructions generalizing dockerfile with
  | nil =>
    split
    · assumption
    · rfl
  | cons first rest ih =>
    rw [List.foldl_cons, ih, push_baseImage, List.map_cons]
    by_cases known : dockerfile.baseImage = []
    · by_cases names : first.namedImage = []
      · simp [known, names]
      · simp [known, names]
    · simp [known]

/-- The base image is the first image that a `FROM` names. -/
theorem ofInstructions_baseImage (path : Text) (instructions : List Instruction) :
    (ofInstructions path instructions).baseImage =
      ((instructions.map (·.namedImage)).find? (· ≠ [])).getD [] := by
  rw [ofInstructions, foldl_push_baseImage]
  rfl

/-- A base image is one word, so it holds no blanks. -/
theorem visible_ofInstructions_baseImage (path : Text) (instructions : List Instruction) :
    ∀ c ∈ (ofInstructions path instructions).baseImage, Text.isBlank c = false := by
  rw [ofInstructions_baseImage]
  cases found : (instructions.map (·.namedImage)).find? (· ≠ []) with
  | none => exact List.forall_mem_nil _
  | some image =>
    obtain ⟨instruction, _, rfl⟩ := List.mem_map.mp (List.mem_of_find?_eq_some found)
    rw [Option.getD_some, Instruction.namedImage]
    split
    · rcases stageImage_mem_words instruction.arguments with empty | word
      · rw [empty]
        exact List.forall_mem_nil _
      · exact Text.visible_of_mem_words word
    · exact List.forall_mem_nil _

/-- Later instructions count only while no base image is known. -/
theorem ofInstructions_append_baseImage (path : Text) (left right : List Instruction) :
    (ofInstructions path (left ++ right)).baseImage =
      if (ofInstructions path left).baseImage ≠ [] then (ofInstructions path left).baseImage
      else (ofInstructions path right).baseImage := by
  rw [ofInstructions_baseImage, ofInstructions_baseImage, ofInstructions_baseImage,
    List.map_append, List.find?_append]
  cases found : (left.map (·.namedImage)).find? (· ≠ []) with
  | none => rfl
  | some image =>
    have named : image ≠ [] := by simpa using List.find?_some found
    simp [named]

/-- Instructions that differ only in their lines have the same base image. -/
theorem ofInstructions_baseImage_congr
    (same : left.map Instruction.unnumbered = right.map Instruction.unnumbered) :
    (ofInstructions path left).baseImage = (ofInstructions other right).baseImage := by
  have images : left.map (·.namedImage) = right.map (·.namedImage) := by
    induction left generalizing right with
    | nil =>
      obtain rfl := List.map_eq_nil_iff.mp same.symm
      rfl
    | cons first rest ih =>
      obtain ⟨second, others, rfl, here, later⟩ := List.map_eq_cons_iff.mp same.symm
      rw [List.map_cons, List.map_cons, Instruction.namedImage_congr here, ih later.symm]
  rw [ofInstructions_baseImage, ofInstructions_baseImage, images]

/-- Where the instructions of one text are those of another on moved lines, nothing else differs. -/
theorem parse_of_moveLine (path : Text) {content moved : Text} {move : Nat → Nat}
    (same : instructionsOf moved = (instructionsOf content).map (·.moveLine move)) :
    (parse path moved).baseImage = (parse path content).baseImage ∧
      (parse path moved).instructions.map (·.unnumbered) =
        (parse path content).instructions.map (·.unnumbered) ∧
      (parse path moved).instructions.map (·.line) =
        (parse path content).instructions.map fun instruction => move instruction.line := by
  have unnumbered : (instructionsOf moved).map (·.unnumbered) =
      (instructionsOf content).map (·.unnumbered) := by
    rw [same]
    exact Instruction.map_unnumbered_moveLine move _
  rw [parse_instructions, parse_instructions]
  refine ⟨ofInstructions_baseImage_congr unnumbered, unnumbered, ?_⟩
  rw [same, List.map_map]
  rfl

end Dockerfile

end DockerfileLint
