import DockerfileLint.Proofs.Check.Agreement

/-! The finding on copies without an owner.  It asks who the users are and which flags the copies have,
but not whether anything is copied at all.  So what it says holds of every `COPY`, and it has a line
to point at exactly where there is one. -/

namespace DockerfileLint

namespace Dockerfile

variable {dockerfile : Dockerfile} {path content : Text}

/-- Some `USER` is neither `root` nor `0`. -/
def NamesOtherUser (dockerfile : Dockerfile) : Prop :=
  ∃ user ∈ dockerfile.instructions, user.is "USER" = true ∧
    user.arguments ≠ ("root" : Text) ∧ user.arguments ≠ ("0" : Text)

def LeavesOwnersOpen (dockerfile : Dockerfile) : Prop :=
  ∀ copy ∈ dockerfile.instructions, copy.is "COPY" = true → ∀ token ∈ copy.tokens,
    token ≠ ("--chown" : Text) ∧ ¬("--chown=" : Text) <+: token

/-- Users are compared with `root` as they are written, and what is read is written without blanks
around it. -/
theorem hasOtherUser_parse_iff :
    (parse path content).hasOtherUser = true ↔ (parse path content).NamesOtherUser := by
  rw [hasOtherUser_eq_true_iff]
  apply exists_congr
  intro user
  refine and_congr_right fun member => and_congr_right fun _ => ?_
  rw [Instruction.namesRoot_eq_true_iff (trim_arguments_of_mem_parse member), not_or]

theorem hasOwnedCopy_eq_false_iff :
    dockerfile.hasOwnedCopy = false ↔ dockerfile.LeavesOwnersOpen := by
  rw [← Bool.not_eq_true, hasOwnedCopy_eq_true_iff]
  constructor
  · intro unowned copy member named token inside
    apply not_or.mp
    intro owned
    exact unowned ⟨copy, member, named, token, inside, owned⟩
  · intro unowned owned
    obtain ⟨copy, member, named, token, inside, flag⟩ := owned
    obtain ⟨bare, unvalued⟩ := unowned copy member named token inside
    exact flag.elim bare unvalued

/-- Copies without an owner, for a user that may need one: what the finding tells of a Dockerfile, with
the line of the first of them. -/
structure LacksOwners (dockerfile : Dockerfile) (line : Option Nat) : Prop where
  user : dockerfile.NamesOtherUser
  first : ∃ copy, dockerfile.IsFirst (·.is "COPY" = true) copy ∧ line = some copy.line
  unowned : dockerfile.LeavesOwnersOpen

end Dockerfile

namespace Check

open Dockerfile (parse)

variable {path content : Text} {issue : Issue}

theorem reports_copyOwner_iff :
    Reports (security (parse path content)) .copyOwner ↔
      (parse path content).NamesOtherUser ∧ (parse path content).LeavesOwnersOpen := by
  rw [reports_security_iff, ← Dockerfile.hasOtherUser_parse_iff,
    ← Dockerfile.hasOwnedCopy_eq_false_iff]
  constructor
  · intro reported
    obtain ⟨issue, reason⟩ := reported
    cases reason with
    | copyOwner unowned other => exact ⟨other, unowned⟩
  · intro both
    exact ⟨_, .copyOwner both.2 both.1⟩

theorem eq_copyOwnerFinding_of_mem_security (member : issue ∈ security (parse path content))
    (about : issue.IsAbout .copyOwner) :
    issue = copyOwnerFinding ((parse path content).firstLine? "COPY") := by
  cases SecurityFinding.of_mem member about with
  | copyOwner unowned other => rfl

/-- Copies without an owner are reported for every user other than root unless some `COPY` has one.
All that the finding tells is true exactly if there is a `COPY`; where there is none, it still comes,
without a line. -/
theorem lacksOwners_iff (path content : Text) :
    let dockerfile := parse path content
    (Reports (security dockerfile) .copyOwner ↔
        dockerfile.NamesOtherUser ∧ dockerfile.LeavesOwnersOpen) ∧
      ∀ issue ∈ security dockerfile, issue.IsAbout .copyOwner →
        issue = copyOwnerFinding issue.line ∧
          (dockerfile.LacksOwners issue.line ↔ dockerfile.has "COPY" = true) ∧
          (issue.line = none ↔ dockerfile.has "COPY" = false) := by
  intro dockerfile
  refine ⟨reports_copyOwner_iff, ?_⟩
  intro issue member about
  obtain ⟨user, unowned⟩ := reports_copyOwner_iff.mp ⟨issue, member, about⟩
  obtain rfl := eq_copyOwnerFinding_of_mem_security member about
  refine ⟨rfl, ?_, ?_⟩
  · constructor
    · intro told
      obtain ⟨copy, first, _⟩ := told.first
      exact Dockerfile.has_eq_true_iff.mpr ⟨copy, first.mem, first.holds⟩
    · intro present
      obtain ⟨copy, found⟩ := Dockerfile.has_eq_true_iff_first?.mp present
      have first := Dockerfile.first?_eq_some_iff.mp found
      exact ⟨user, ⟨copy, first, Dockerfile.firstLine?_eq_some_iff.mpr ⟨copy, first, rfl⟩⟩, unowned⟩
  · change (dockerfile.first? "COPY").map (·.line) = none ↔ _
    rw [Option.map_eq_none_iff, Dockerfile.first?_eq_none_iff, Dockerfile.has_eq_false_iff]

/-- Two copies, the first of them before the user is named. -/
theorem lacksOwners_iff_copies :
    let dockerfile := parse [] "FROM a\nCOPY b c\nUSER d\nCOPY --from=e f g\n"
    copyOwnerFinding (some 2) ∈ security dockerfile ∧
      (copyOwnerFinding (some 2)).IsAbout .copyOwner ∧ dockerfile.LacksOwners (some 2) := by
  intro dockerfile
  have other : dockerfile.hasOtherUser = true := by decide +kernel
  have unowned : dockerfile.hasOwnedCopy = false := by decide +kernel
  have line : dockerfile.firstLine? "COPY" = some 2 := by decide +kernel
  have copies : dockerfile.has "COPY" = true := by decide +kernel
  have reason : SecurityFinding dockerfile .copyOwner (copyOwnerFinding (some 2)) := by
    rw [← line]
    exact .copyOwner unowned other
  have member : copyOwnerFinding (some 2) ∈ security dockerfile := mem_security_iff.mpr ⟨_, reason⟩
  obtain ⟨_, told⟩ := lacksOwners_iff [] "FROM a\nCOPY b c\nUSER d\nCOPY --from=e f g\n"
  exact ⟨member, reason.isAbout, (told _ member reason.isAbout).2.1.mpr copies⟩

/-- Nothing is copied, and still the finding comes. -/
theorem not_lacksOwners_of_copyless :
    let dockerfile := parse [] "FROM alpine:3.19\nUSER app\nHEALTHCHECK CMD true\n"
    ¬∀ issue ∈ security dockerfile, issue.IsAbout .copyOwner → dockerfile.LacksOwners issue.line := by
  intro dockerfile told
  have other : dockerfile.hasOtherUser = true := by decide +kernel
  have unowned : dockerfile.hasOwnedCopy = false := by decide +kernel
  have copyless : dockerfile.has "COPY" = false := by decide +kernel
  have reason := SecurityFinding.copyOwner unowned other
  obtain ⟨copy, first, _⟩ := (told _ (mem_security_iff.mpr ⟨_, reason⟩) reason.isAbout).first
  have absent := Dockerfile.has_eq_false_iff.mp copyless copy first.mem
  rw [first.holds] at absent
  cases absent

end Check

end DockerfileLint
