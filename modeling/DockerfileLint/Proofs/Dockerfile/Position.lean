import DockerfileLint.Proofs.Dockerfile.BaseImage
import DockerfileLint.Proofs.Dockerfile.Lookup
import DockerfileLint.Proofs.Dockerfile.Wellformed

namespace DockerfileLint.Dockerfile

variable {dockerfile : Dockerfile} {trait : Instruction → Prop} {instruction other : Instruction}
variable {keyword : Text}

/-- The instruction has the trait, and none before it has. -/
structure IsFirst (dockerfile : Dockerfile) (trait : Instruction → Prop)
    (instruction : Instruction) : Prop where
  holds : trait instruction
  leads : ∃ before after, dockerfile.instructions = before ++ instruction :: after ∧
    ∀ earlier ∈ before, ¬trait earlier

namespace IsFirst

theorem mem (first : dockerfile.IsFirst trait instruction) :
    instruction ∈ dockerfile.instructions := by
  obtain ⟨before, after, whole, _⟩ := first.leads
  rw [whole]
  exact List.mem_append_right before List.mem_cons_self

theorem of_agree {same : Instruction → Prop} (first : dockerfile.IsFirst trait instruction)
    (agree : ∀ i ∈ dockerfile.instructions, trait i ↔ same i) :
    dockerfile.IsFirst same instruction := by
  have holds := (agree instruction first.mem).mp first.holds
  obtain ⟨before, after, whole, absent⟩ := first.leads
  refine ⟨holds, before, after, whole, fun i member kept => absent i member ?_⟩
  have present : i ∈ dockerfile.instructions := by
    rw [whole]
    exact List.mem_append_left _ member
  exact (agree i present).mpr kept

theorem congr_mem {same : Instruction → Prop}
    (agree : ∀ i ∈ dockerfile.instructions, trait i ↔ same i) :
    dockerfile.IsFirst trait instruction ↔ dockerfile.IsFirst same instruction :=
  ⟨fun first => first.of_agree agree, fun first => first.of_agree fun i member => (agree i member).symm⟩

theorem congr {same : Instruction → Prop} (agree : ∀ i, trait i ↔ same i) :
    dockerfile.IsFirst trait instruction ↔ dockerfile.IsFirst same instruction :=
  congr_mem fun i _ => agree i

/-- With fewer candidates the first one stays first, if it is still one of them. -/
theorem of_imp {strong : Instruction → Prop} (first : dockerfile.IsFirst trait instruction)
    (weaker : ∀ i, strong i → trait i) (holds : strong instruction) :
    dockerfile.IsFirst strong instruction := by
  obtain ⟨before, after, whole, absent⟩ := first.leads
  exact ⟨holds, before, after, whole, fun i member kept => absent i member (weaker i kept)⟩

end IsFirst

theorem find?_eq_some_iff_isFirst {test : Instruction → Bool} :
    dockerfile.instructions.find? test = some instruction ↔
      dockerfile.IsFirst (test · = true) instruction := by
  rw [List.find?_eq_some_iff_append]
  simp only [Bool.not_eq_true']
  constructor
  · rintro ⟨holds, before, after, whole, absent⟩
    exact ⟨holds, before, after, whole, fun i member => ne_true_of_eq_false (absent i member)⟩
  · rintro ⟨holds, before, after, whole, absent⟩
    exact ⟨holds, before, after, whole, fun i member => eq_false_of_ne_true (absent i member)⟩

open Classical in
theorem IsFirst.unique (first : dockerfile.IsFirst trait instruction)
    (second : dockerfile.IsFirst trait other) : instruction = other := by
  have search {i : Instruction} (leads : dockerfile.IsFirst trait i) :
      dockerfile.instructions.find? (decide <| trait ·) = some i := by
    rw [find?_eq_some_iff_isFirst]
    exact (IsFirst.congr fun i => decide_eq_true_iff).mpr leads
  exact Option.some.inj ((search first).symm.trans (search second))

theorem first?_eq_some_iff :
    dockerfile.first? keyword = some instruction ↔
      dockerfile.IsFirst (·.is keyword = true) instruction :=
  find?_eq_some_iff_isFirst

theorem firstLine?_eq_some_iff {line : Nat} :
    dockerfile.firstLine? keyword = some line ↔
      ∃ first, dockerfile.IsFirst (·.is keyword = true) first ∧ first.line = line := by
  rw [firstLine?, Option.map_eq_some_iff]
  simp only [first?_eq_some_iff]

theorem firstContextCopy?_eq_some_iff :
    dockerfile.firstContextCopy? = some instruction ↔
      dockerfile.IsFirst (fun copy => copy.is "COPY" = true ∧
        ((" . " : Text) <:+: copy.arguments ∨ (" ." : Text) <:+ copy.arguments)) instruction := by
  rw [firstContextCopy?, find?_eq_some_iff_isFirst]
  apply IsFirst.congr
  intro copy
  rw [Bool.and_eq_true, Instruction.hasLoneDot_eq_true_iff]

theorem firstRemoteAdd?_eq_some_iff :
    dockerfile.firstRemoteAdd? = some instruction ↔
      dockerfile.IsFirst (fun add => add.is "ADD" = true ∧
        (("http://" : Text) <:+: add.arguments ∨ ("https://" : Text) <:+: add.arguments))
        instruction := by
  rw [firstRemoteAdd?, find?_eq_some_iff_isFirst]
  apply IsFirst.congr
  intro add
  rw [Bool.and_eq_true, Instruction.mentionsUrl_eq_true_iff]

theorem isFirst_of_argumentBeforeStage?
    (found : dockerfile.argumentBeforeStage? = some instruction) :
    instruction.is "ARG" = true ∧
      dockerfile.IsFirst (fun i => i.is "ARG" = true ∨ i.is "FROM" = true) instruction := by
  rw [argumentBeforeStage?, List.find?_eq_some_iff_append] at found
  obtain ⟨named, before, after, early, absent⟩ := found
  have unstaged : ∀ i ∈ before ++ instruction :: after, i.is "FROM" = false := by
    intro i member
    rw [← early] at member
    have other := List.mem_takeWhile_imp member
    rwa [Bool.not_eq_true'] at other
  have whole : dockerfile.instructions =
      before ++ instruction :: (after ++ dockerfile.instructions.dropWhile (!·.is "FROM")) := by
    rw [← List.cons_append, ← List.append_assoc, ← early, List.takeWhile_append_dropWhile]
  refine ⟨named, .inl named, before, _, whole, ?_⟩
  rintro earlier member (argument | stage)
  · have other := absent earlier member
    rw [argument] at other
    cases other
  · rw [unstaged earlier (List.mem_append_left _ member)] at stage
    cases stage

/-- A base image that is known is the first word of the first `FROM` with any. -/
theorem exists_isFirst_of_baseImage {path : Text} {instructions : List Instruction}
    (known : (ofInstructions path instructions).baseImage ≠ []) :
    ∃ stage, (ofInstructions path instructions).IsFirst
        (fun i => i.is "FROM" = true ∧ i.tokens ≠ []) stage ∧
      stage.tokens.head? = some (ofInstructions path instructions).baseImage := by
  rw [ofInstructions_baseImage, List.find?_map] at known ⊢
  cases found : instructions.find? ((fun image => decide (image ≠ [])) ∘ (·.namedImage)) with
  | none =>
    rw [found] at known
    exact absurd rfl known
  | some stage =>
    rw [← ofInstructions_instructions path instructions, find?_eq_some_iff_isFirst] at found
    have names : stage.namedImage ≠ [] := of_decide_eq_true found.holds
    refine ⟨stage, (IsFirst.congr fun i => ?_).mp found, Instruction.head?_tokens_of_namedImage names⟩
    rw [Function.comp_apply, decide_eq_true_iff, Instruction.namedImage_ne_nil_iff]

def Ordered (dockerfile : Dockerfile) : Prop :=
  dockerfile.instructions.Pairwise (·.line < ·.line)

theorem ordered_parse (path content : Text) : (parse path content).Ordered := by
  rw [Ordered, parse_instructions, instructionsOf_eq_readRoles]
  exact pairwise_line_readRoles 1 [] (rolesOf content)

namespace Ordered

theorem filter_line (ordered : dockerfile.Ordered) (member : instruction ∈ dockerfile.instructions) :
    dockerfile.instructions.filter (·.line = instruction.line) = [instruction] := by
  obtain ⟨before, after, whole⟩ := List.append_of_mem member
  rw [Ordered, whole, List.pairwise_append, List.pairwise_cons] at ordered
  obtain ⟨_, ⟨later, _⟩, earlier⟩ := ordered
  have front : before.filter (·.line = instruction.line) = [] := by
    rw [List.filter_eq_nil_iff]
    intro i inside
    have less := earlier i inside instruction List.mem_cons_self
    simpa using Nat.ne_of_lt less
  have back : after.filter (·.line = instruction.line) = [] := by
    rw [List.filter_eq_nil_iff]
    intro i inside
    have more := later i inside
    simpa using Nat.ne_of_gt more
  rw [whole, List.filter_append, front, List.filter_cons_of_pos (by simp), back, List.nil_append]

theorem eq_of_line_eq (ordered : dockerfile.Ordered) (member : instruction ∈ dockerfile.instructions)
    (present : other ∈ dockerfile.instructions) (same : other.line = instruction.line) :
    other = instruction := by
  have found : other ∈ dockerfile.instructions.filter (·.line = instruction.line) :=
    List.mem_filter.mpr ⟨present, decide_eq_true same⟩
  rw [ordered.filter_line member] at found
  exact List.mem_singleton.mp found

theorem line_le (ordered : dockerfile.Ordered) (first : dockerfile.IsFirst trait instruction)
    (present : other ∈ dockerfile.instructions) (holds : trait other) :
    instruction.line ≤ other.line := by
  obtain ⟨before, after, whole, absent⟩ := first.leads
  rw [Ordered, whole, List.pairwise_append, List.pairwise_cons] at ordered
  obtain ⟨_, ⟨later, _⟩, _⟩ := ordered
  rw [whole] at present
  rcases List.mem_append.mp present with earlier | rest
  · exact absurd holds (absent other earlier)
  · rcases List.mem_cons.mp rest with rfl | following
    · exact Nat.le_refl _
    · exact Nat.le_of_lt (later other following)

end Ordered

end DockerfileLint.Dockerfile
