import DockerfileLint.Proofs.Dockerfile.Concatenation
import DockerfileLint.Proofs.Dockerfile.Position
import Mathlib.Data.List.Infix

namespace DockerfileLint.Dockerfile

/-- The second Dockerfile goes on where the first one ends.  A base image that is known by then
comes from a `FROM`, and it stays. -/
structure GrowsTo (small large : Dockerfile) : Prop where
  instructions : small.instructions <+: large.instructions
  stage : small.baseImage ≠ [] → small.has "FROM" = true
  baseImage : small.baseImage ≠ [] → large.baseImage = small.baseImage

theorem has_from_of_baseImage {path : Text} {instructions : List Instruction}
    (known : (ofInstructions path instructions).baseImage ≠ []) :
    (ofInstructions path instructions).has "FROM" = true := by
  obtain ⟨stage, first, _⟩ := exists_isFirst_of_baseImage known
  exact has_eq_true_iff.mpr ⟨stage, first.mem, first.holds.1⟩

theorem has_expose_of_exposedPorts {dockerfile : Dockerfile}
    (exposed : dockerfile.exposedPorts ≠ []) : dockerfile.has "EXPOSE" = true := by
  by_contra absent
  apply exposed
  rw [exposedPorts_eq_nil_iff]
  intro expose member named
  exact absurd (has_eq_true_iff.mpr ⟨expose, member, named⟩) absent

theorem growsTo_ofInstructions (path : Text) (left right : List Instruction) :
    GrowsTo (ofInstructions path left) (ofInstructions path (left ++ right)) where
  instructions := by
    rw [ofInstructions_instructions, ofInstructions_instructions]
    exact List.prefix_append left right
  stage := has_from_of_baseImage
  baseImage known := by rw [ofInstructions_append_baseImage, if_pos known]

theorem growsTo_parse_blankLine (path front back : Text) :
    GrowsTo (parse path (front ++ ['\n', '\n'])) (parse path (front ++ ['\n', '\n'] ++ back)) := by
  rw [parse, parse, instructionsOf_append_blankLine]
  exact growsTo_ofInstructions path _ _

namespace GrowsTo

variable {small large : Dockerfile} {keyword : Text} {instruction : Instruction}

theorem find? {trait : Instruction → Bool} (grows : GrowsTo small large)
    (found : small.instructions.find? trait = some instruction) :
    large.instructions.find? trait = some instruction :=
  grows.instructions.find?_eq_some found

theorem first? (grows : GrowsTo small large) (first : small.first? keyword = some instruction) :
    large.first? keyword = some instruction :=
  grows.find? first

theorem firstLine? (grows : GrowsTo small large) (present : small.has keyword = true) :
    large.firstLine? keyword = small.firstLine? keyword := by
  obtain ⟨first, found⟩ := has_eq_true_iff_first?.mp present
  rw [Dockerfile.firstLine?, Dockerfile.firstLine?, found, grows.first? found]

theorem has (grows : GrowsTo small large) (present : small.has keyword = true) :
    large.has keyword = true := by
  obtain ⟨first, found⟩ := has_eq_true_iff_first?.mp present
  exact has_eq_true_iff_first?.mpr ⟨first, grows.first? found⟩

theorem missing (grows : GrowsTo small large) (absent : large.has keyword = false) :
    small.has keyword = false :=
  eq_false_of_ne_true (mt grows.has (ne_true_of_eq_false absent))

private theorem isPrefix_takeWhile {small large : List Instruction} (grows : small <+: large)
    (trait : Instruction → Bool) : small.takeWhile trait <+: large.takeWhile trait := by
  obtain ⟨more, rfl⟩ := grows
  rw [List.takeWhile_append]
  split
  · exact (List.takeWhile_prefix trait).trans (List.prefix_append small _)
  · exact List.prefix_refl _

theorem argumentBeforeStage? (grows : GrowsTo small large)
    (found : small.argumentBeforeStage? = some instruction) :
    large.argumentBeforeStage? = some instruction :=
  (isPrefix_takeWhile grows.instructions _).find?_eq_some found

theorem exposedPorts (grows : GrowsTo small large) : small.exposedPorts <+: large.exposedPorts :=
  List.IsPrefix.flatMap (List.IsPrefix.filter _ grows.instructions) _

theorem hasOtherUser (grows : GrowsTo small large) (other : small.hasOtherUser = true) :
    large.hasOtherUser = true := by
  obtain ⟨user, member, named, differs⟩ := hasOtherUser_eq_true_iff.mp other
  exact hasOtherUser_eq_true_iff.mpr ⟨user, grows.instructions.subset member, named, differs⟩

theorem missingOtherUser (grows : GrowsTo small large) (absent : large.hasOtherUser = false) :
    small.hasOtherUser = false :=
  eq_false_of_ne_true (mt grows.hasOtherUser (ne_true_of_eq_false absent))

/-- The first `USER` decides, so a user other than root cannot be taken back. -/
theorem runsAsRoot (grows : GrowsTo small large)
    (root : large.startsAsRoot = true ∨ large.has "USER" = false) :
    small.startsAsRoot = true ∨ small.has "USER" = false := by
  cases present : small.has "USER" with
  | false => exact .inr rfl
  | true =>
    obtain ⟨user, first⟩ := has_eq_true_iff_first?.mp present
    rcases root with starts | absent
    · rw [startsAsRoot, grows.first? first] at starts
      rw [startsAsRoot, first]
      exact .inl starts
    · rw [grows.has present] at absent
      cases absent

end GrowsTo

end DockerfileLint.Dockerfile
