import DockerfileLint.Dockerfile.Lookup
import Mathlib.Data.List.TakeWhile

namespace DockerfileLint

namespace Instruction

variable {instruction : Instruction}

theorem not_is_of_is {keyword other : Text} (same : instruction.is keyword = true)
    (differ : keyword.map Char.toLower ≠ other.map Char.toLower) : instruction.is other = false := by
  have first : instruction.keyword.map Char.toLower = keyword.map Char.toLower := beq_iff_eq.mp same
  rw [Instruction.is, Text.sameIgnoringCase, first]
  exact beq_false_of_ne differ

theorem namesRoot_eq_true_iff (trimmed : Text.trim instruction.arguments = instruction.arguments) :
    instruction.namesRoot = true ↔
      instruction.arguments = ("root" : Text) ∨ instruction.arguments = ("0" : Text) := by
  rw [namesRoot, trimmed, Bool.or_eq_true, beq_iff_eq, beq_iff_eq]

theorem mentionsUrl_eq_true_iff :
    instruction.mentionsUrl = true ↔
      ("http://" : Text) <:+: instruction.arguments ∨ ("https://" : Text) <:+: instruction.arguments := by
  rw [mentionsUrl, Bool.or_eq_true, Text.contains_iff_infix, Text.contains_iff_infix]

theorem hasLoneDot_eq_true_iff :
    instruction.hasLoneDot = true ↔
      (" . " : Text) <:+: instruction.arguments ∨ (" ." : Text) <:+ instruction.arguments := by
  rw [hasLoneDot, Bool.or_eq_true, Text.contains_iff_infix, List.isSuffixOf_iff_suffix]

theorem hasChown_eq_true_iff :
    instruction.hasChown = true ↔
      ∃ token ∈ instruction.tokens, token = ("--chown" : Text) ∨ ("--chown=" : Text) <+: token := by
  simp only [hasChown, List.any_eq_true, Bool.or_eq_true, beq_iff_eq, List.isPrefixOf_iff_prefix]

end Instruction

namespace Dockerfile

variable {dockerfile : Dockerfile} {keyword : Text} {instruction : Instruction}

theorem has_eq_true_iff :
    dockerfile.has keyword = true ↔
      ∃ instruction ∈ dockerfile.instructions, instruction.is keyword = true :=
  List.any_eq_true

theorem has_eq_false_iff :
    dockerfile.has keyword = false ↔
      ∀ instruction ∈ dockerfile.instructions, instruction.is keyword = false := by
  simp only [has, List.any_eq_false, Bool.not_eq_true]

theorem first?_eq_none_iff :
    dockerfile.first? keyword = none ↔
      ∀ instruction ∈ dockerfile.instructions, instruction.is keyword = false := by
  simp only [first?, List.find?_eq_none, Bool.not_eq_true]

theorem mem_of_first? (first : dockerfile.first? keyword = some instruction) :
    instruction ∈ dockerfile.instructions ∧ instruction.is keyword = true := by
  rw [first?] at first
  have named := List.find?_some first
  exact ⟨List.mem_of_find?_eq_some first, named⟩

theorem has_eq_true_iff_first? :
    dockerfile.has keyword = true ↔ ∃ first, dockerfile.first? keyword = some first := by
  rw [← Option.isSome_iff_exists, first?, List.isSome_find?]
  rfl

/-- The first `USER` counts, if there is one, and others only where some user is asked for. -/
theorem hasUser_and_not_startsAsRoot_iff :
    dockerfile.has "USER" = true ∧ ¬dockerfile.startsAsRoot = true ↔
      ∃ user, dockerfile.first? "USER" = some user ∧ ¬user.namesRoot = true := by
  rw [has_eq_true_iff_first?, startsAsRoot]
  constructor
  · rintro ⟨⟨user, first⟩, other⟩
    rw [first] at other
    exact ⟨user, first, other⟩
  · rintro ⟨user, first, other⟩
    rw [first]
    exact ⟨⟨user, rfl⟩, other⟩

section Traits
variable {trait : Instruction → Bool}

private theorem find?_keyword_eq_none_iff :
    (dockerfile.instructions.find? fun i => i.is keyword && trait i) = none ↔
      ∀ instruction ∈ dockerfile.instructions, instruction.is keyword = true →
        ¬trait instruction = true := by
  simp only [List.find?_eq_none, Bool.and_eq_true, not_and]

private theorem any_withKeyword_eq_true_iff :
    (dockerfile.withKeyword keyword).any trait = true ↔
      ∃ instruction ∈ dockerfile.instructions, instruction.is keyword = true ∧
        trait instruction = true := by
  simp only [withKeyword, List.any_filter, List.any_eq_true, Bool.and_eq_true]

end Traits

theorem firstContextCopy?_eq_none_iff :
    dockerfile.firstContextCopy? = none ↔
      ∀ copy ∈ dockerfile.instructions, copy.is "COPY" = true →
        ¬((" . " : Text) <:+: copy.arguments ∨ (" ." : Text) <:+ copy.arguments) := by
  rw [firstContextCopy?, find?_keyword_eq_none_iff]
  simp only [Instruction.hasLoneDot_eq_true_iff]

theorem firstRemoteAdd?_eq_none_iff :
    dockerfile.firstRemoteAdd? = none ↔
      ∀ add ∈ dockerfile.instructions, add.is "ADD" = true →
        ¬(("http://" : Text) <:+: add.arguments ∨ ("https://" : Text) <:+: add.arguments) := by
  rw [firstRemoteAdd?, find?_keyword_eq_none_iff]
  simp only [Instruction.mentionsUrl_eq_true_iff]

theorem hasOwnedCopy_eq_true_iff :
    dockerfile.hasOwnedCopy = true ↔
      ∃ copy ∈ dockerfile.instructions, copy.is "COPY" = true ∧
        ∃ token ∈ copy.tokens, token = ("--chown" : Text) ∨ ("--chown=" : Text) <+: token := by
  rw [hasOwnedCopy, any_withKeyword_eq_true_iff]
  simp only [Instruction.hasChown_eq_true_iff]

theorem hasOtherUser_eq_true_iff :
    dockerfile.hasOtherUser = true ↔
      ∃ user ∈ dockerfile.instructions, user.is "USER" = true ∧ ¬user.namesRoot = true := by
  rw [hasOtherUser, any_withKeyword_eq_true_iff]
  simp only [Bool.not_eq_true', Bool.not_eq_true]

theorem hasOtherUser_of_first? (first : dockerfile.first? "USER" = some instruction)
    (other : ¬instruction.namesRoot = true) : dockerfile.hasOtherUser = true := by
  obtain ⟨member, named⟩ := mem_of_first? first
  exact hasOtherUser_eq_true_iff.mpr ⟨instruction, member, named, other⟩

theorem exposedPorts_eq_nil_iff :
    dockerfile.exposedPorts = [] ↔
      ∀ expose ∈ dockerfile.instructions, expose.is "EXPOSE" = true → expose.tokens = [] := by
  simp only [exposedPorts, withKeyword, List.flatMap_eq_nil_iff, List.mem_filter, and_imp]

theorem argumentBeforeStage?_eq_none_iff :
    dockerfile.argumentBeforeStage? = none ↔
      ∀ before argument after, dockerfile.instructions = before ++ argument :: after →
        argument.is "ARG" = true → ∃ stage ∈ before, stage.is "FROM" = true := by
  rw [argumentBeforeStage?, List.find?_eq_none]
  constructor
  · intro none before argument after whole named
    by_contra unstaged
    have early : ∀ instruction ∈ before ++ [argument], (!instruction.is "FROM") = true := by
      intro instruction member
      rw [Bool.not_eq_true']
      rcases List.mem_append.mp member with inside | last
      · exact eq_false_of_ne_true fun stage => unstaged ⟨instruction, inside, stage⟩
      · rw [List.mem_singleton.mp last]
        exact Instruction.not_is_of_is named (by decide)
    refine none argument ?_ named
    rw [whole, ← List.singleton_append, ← List.append_assoc, List.takeWhile_append_of_pos early]
    simp
  · intro staged argument member named
    obtain ⟨before, middle, split⟩ := List.append_of_mem member
    have whole : dockerfile.instructions = before ++ argument ::
        (middle ++ dockerfile.instructions.dropWhile (!·.is "FROM")) := by
      rw [← List.cons_append, ← List.append_assoc, ← split, List.takeWhile_append_dropWhile]
    obtain ⟨stage, inside, first⟩ := staged before argument _ whole named
    have taken : stage ∈ dockerfile.instructions.takeWhile (!·.is "FROM") := by
      rw [split]
      exact List.mem_append_left _ inside
    have early := List.mem_takeWhile_imp taken
    rw [first] at early
    cases early

end Dockerfile

end DockerfileLint
