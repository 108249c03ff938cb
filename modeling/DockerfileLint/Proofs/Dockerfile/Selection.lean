import DockerfileLint.Proofs.Dockerfile.Position
import DockerfileLint.Proofs.Text.Uppercase

namespace DockerfileLint

/-- The keyword of an instruction that was read is the name in capitals, not just a like one. -/
theorem Instruction.is_ofSource_iff {keyword : Text} (capital : Text.HasNoSmallLetter keyword)
    (line : Nat) (source : Text) :
    (ofSource line source).is keyword = true ↔ (ofSource line source).keyword = keyword :=
  (Text.hasNoSmallLetter_uppercase _).sameIgnoringCase_iff capital

namespace Dockerfile

variable {dockerfile : Dockerfile} {path content arguments separator : Text}
variable {instructions : List Instruction} {instruction : Instruction} {front back : List Text}

theorem is_from_iff_of_mem_parse (member : instruction ∈ (parse path content).instructions) :
    instruction.is "FROM" = true ↔ instruction.keyword = ("FROM" : Text) := by
  rw [parse_instructions] at member
  rw [(source_of_mem_instructionsOf member).2]
  exact Instruction.is_ofSource_iff (Text.hasNoSmallLetter_of_all rfl) _ _

theorem foldl_push_baseImage_of_ne_nil (known : dockerfile.baseImage ≠ [])
    (later : List Instruction) : (later.foldl push dockerfile).baseImage = dockerfile.baseImage := by
  induction later generalizing dockerfile with
  | nil => rfl
  | cons next rest ih =>
    have kept := push_baseImage_of_ne_nil known next
    rw [List.foldl_cons, ih (by rwa [kept]), kept]

theorem ofInstructions_baseImage_eq_nil_iff :
    (ofInstructions path instructions).baseImage = [] ↔
      ∀ stage ∈ instructions, stage.is "FROM" = true → stage.tokens = [] := by
  have unnamed (stage : Instruction) :
      stage.namedImage = [] ↔ (stage.is "FROM" = true → stage.tokens = []) := by
    rw [← not_iff_not, ← ne_eq, Instruction.namedImage_ne_nil_iff, Classical.not_imp]
  rw [ofInstructions_baseImage]
  cases found : (instructions.map (·.namedImage)).find? (· ≠ []) with
  | none =>
    have none (stage : Instruction) (member : stage ∈ instructions) : stage.namedImage = [] := by
      simpa using List.find?_eq_none.mp found _ (List.mem_map_of_mem member)
    exact iff_of_true rfl fun stage member => (unnamed stage).mp (none stage member)
  | some image =>
    have named : image ≠ [] := by simpa using List.find?_some found
    obtain ⟨stage, member, rfl⟩ := List.mem_map.mp (List.mem_of_find?_eq_some found)
    exact iff_of_false named fun none => named ((unnamed stage).mpr (none stage member))

theorem IsFirst.head?_tokens {stage : Instruction}
    (first : (ofInstructions path instructions).IsFirst
      (fun i => i.is "FROM" = true ∧ i.tokens ≠ []) stage) :
    stage.tokens.head? = some (ofInstructions path instructions).baseImage := by
  have known : (ofInstructions path instructions).baseImage ≠ [] := by
    intro unset
    have member := first.mem
    rw [ofInstructions_instructions] at member
    exact first.holds.2 (ofInstructions_baseImage_eq_nil_iff.mp unset stage member first.holds.1)
  obtain ⟨other, leads, image⟩ := exists_isFirst_of_baseImage known
  rwa [first.unique leads]

/-- The word before a separator of the alias decides, or the separator where nothing is before it. -/
theorem stageImage_of_words (words : Text.words arguments = front ++ separator :: back) :
    stageImage arguments = front.headD separator := by
  rw [stageImage_eq_headD, words]
  cases front with
  | nil => rfl
  | cons first rest => rfl

/-- How the base image of a text is chosen.  It is the first word of the earliest `FROM` with any
word, and empty exactly if there is no such `FROM`; it is one word; a base image that is known stays,
whatever instructions are appended; and an `AS` leaves it at the first word, even if it is that word
itself. -/
theorem parse_baseImage_selected (path content : Text) :
    let dockerfile := parse path content
    (∀ stage, dockerfile.IsFirst (fun i => i.keyword = ("FROM" : Text) ∧ i.tokens ≠ []) stage →
        stage.tokens.head? = some dockerfile.baseImage) ∧
      (dockerfile.baseImage = [] ↔
        ∀ stage ∈ dockerfile.instructions, stage.keyword = ("FROM" : Text) → stage.tokens = []) ∧
      (∀ c ∈ dockerfile.baseImage, Text.isBlank c = false) ∧
      (∀ (known : Dockerfile) (later : List Instruction), known.baseImage ≠ [] →
        (later.foldl push known).baseImage = known.baseImage) ∧
      ∀ (arguments separator : Text) (front back : List Text),
        Text.words arguments = front ++ separator :: back →
        Text.sameIgnoringCase "AS" separator = true →
        stageImage arguments = front.headD separator := by
  intro dockerfile
  have keyword (i : Instruction) (member : i ∈ dockerfile.instructions) :
      i.is "FROM" = true ↔ i.keyword = ("FROM" : Text) := is_from_iff_of_mem_parse member
  refine ⟨?_, ?_, visible_ofInstructions_baseImage path _, ?_, ?_⟩
  · intro stage first
    have stages := first.of_agree fun i member => and_congr_left' (keyword i member).symm
    exact stages.head?_tokens
  · have unset : dockerfile.baseImage = [] ↔
        ∀ stage ∈ dockerfile.instructions, stage.is "FROM" = true → stage.tokens = [] := by
      rw [parse_instructions]
      exact ofInstructions_baseImage_eq_nil_iff
    rw [unset]
    exact forall₂_congr fun stage member => imp_congr_left (keyword stage member)
  · intro known later named
    exact foldl_push_baseImage_of_ne_nil named later
  · intro arguments separator front back words _
    exact stageImage_of_words words

/-- A `FROM` without arguments is passed over, and one that begins with `As` names `As`. -/
theorem parse_baseImage_selected_as :
    let content : Text := "FROM\nfrom As base\nFROM node:18 AS build\n"
    let dockerfile := parse [] content
    let stage : Instruction := ⟨"FROM", "As base", 2, "from As base"⟩
    dockerfile.IsFirst (fun i => i.keyword = ("FROM" : Text) ∧ i.tokens ≠ []) stage ∧
      stage.tokens.head? = some dockerfile.baseImage ∧ dockerfile.baseImage = ("As" : Text) ∧
      (Text.words stage.arguments = [] ++ ("As" : Text) :: [("base" : Text)] ∧
        Text.sameIgnoringCase "AS" "As" = true ∧
        stageImage stage.arguments = ([] : List Text).headD "As") ∧
      (dockerfile.push ⟨"FROM", "scratch", 4, "FROM scratch"⟩).baseImage = dockerfile.baseImage := by
  intro content dockerfile stage
  have instructions : dockerfile.instructions =
      [⟨"FROM", "", 1, "FROM"⟩, stage, ⟨"FROM", "node:18 AS build", 3, "FROM node:18 AS build"⟩] := by
    decide +kernel
  have words : Text.words stage.arguments = [] ++ ("As" : Text) :: [("base" : Text)] := by
    decide +kernel
  have first : dockerfile.IsFirst (fun i => i.keyword = ("FROM" : Text) ∧ i.tokens ≠ []) stage := by
    refine ⟨⟨rfl, ?_⟩, [⟨"FROM", "", 1, "FROM"⟩], _, instructions, ?_⟩
    · exact List.ne_nil_of_length_pos (by decide +kernel)
    · exact List.forall_mem_singleton.mpr fun named => named.2 (by decide +kernel)
  have image : dockerfile.baseImage = ("As" : Text) := by
    decide +kernel
  have known : dockerfile.baseImage ≠ [] := by
    rw [image]
    exact List.cons_ne_nil _ _
  have same : Text.sameIgnoringCase "AS" "As" = true := by
    decide +kernel
  obtain ⟨selected, _, _, stays, separated⟩ := parse_baseImage_selected [] content
  exact ⟨first, selected stage first, image, ⟨words, same, separated _ _ _ _ words same⟩,
    stays dockerfile [⟨"FROM", "scratch", 4, "FROM scratch"⟩] known⟩

end Dockerfile

end DockerfileLint
