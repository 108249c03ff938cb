import DockerfileLint.Check.BestPractices
import DockerfileLint.Check.Security
import DockerfileLint.Proofs.Dockerfile.Lookup

namespace DockerfileLint

theorem Image.isUnpinned_eq_false_iff {reference : Text} :
    Image.isUnpinned reference = false ↔ ':' ∈ reference ∧ ¬(":latest" : Text) <:+ reference := by
  rw [Image.isUnpinned, Bool.or_eq_false_iff, decide_eq_false_iff_not, not_not, and_comm,
    ← List.isSuffixOf_iff_suffix, Bool.not_eq_true]

theorem PackageManager.leavesCache_eq_false_iff {manager : PackageManager} {command : Text} :
    manager.leavesCache command = false ↔
      ((∃ install ∈ manager.installs, install <:+: command) →
        ∃ cleanup ∈ manager.cleanups, cleanup <:+: command) := by
  rw [PackageManager.leavesCache, Bool.and_eq_false_imp, Bool.not_eq_false', List.any_eq_true,
    List.any_eq_true]
  simp only [Text.contains_iff_infix]

namespace Dockerfile

structure FollowsPractices (dockerfile : Dockerfile) : Prop where
  /-- A lone dot may only come first among the arguments of a `COPY`. -/
  noContextCopy : ∀ copy ∈ dockerfile.instructions, copy.is "COPY" = true →
    ¬((" . " : Text) <:+: copy.arguments ∨ (" ." : Text) <:+ copy.arguments)
  noAdd : ∀ instruction ∈ dockerfile.instructions, instruction.is "ADD" = false
  healthcheck : ∃ instruction ∈ dockerfile.instructions, instruction.is "HEALTHCHECK" = true
  user : ∃ instruction ∈ dockerfile.instructions, instruction.is "USER" = true
  cleansUp : ∀ run ∈ dockerfile.instructions, run.is "RUN" = true →
    ∀ manager ∈ PackageManager.known,
      (∃ install ∈ manager.installs, install <:+: run.arguments) →
        ∃ cleanup ∈ manager.cleanups, cleanup <:+: run.arguments
  pinned : ':' ∈ dockerfile.baseImage ∧ ¬(":latest" : Text) <:+ dockerfile.baseImage

structure IsSecured (dockerfile : Dockerfile) : Prop where
  user : ∃ user, dockerfile.first? "USER" = some user ∧
    user.arguments ≠ ("root" : Text) ∧ user.arguments ≠ ("0" : Text)
  ownedCopy : ∃ copy ∈ dockerfile.instructions, copy.is "COPY" = true ∧
    ∃ token ∈ copy.tokens, token = ("--chown" : Text) ∨ ("--chown=" : Text) <+: token
  healthcheck : ∃ instruction ∈ dockerfile.instructions, instruction.is "HEALTHCHECK" = true
  noRemoteAdd : ∀ add ∈ dockerfile.instructions, add.is "ADD" = true →
    ¬(("http://" : Text) <:+: add.arguments ∨ ("https://" : Text) <:+: add.arguments)
  noPorts : ∀ expose ∈ dockerfile.instructions, expose.is "EXPOSE" = true → expose.tokens = []
  /-- Without a `FROM` there is no `ARG` either. -/
  noEarlyArgument : ∀ before argument after,
    dockerfile.instructions = before ++ argument :: after → argument.is "ARG" = true →
      ∃ stage ∈ before, stage.is "FROM" = true

end Dockerfile

namespace Check

variable {dockerfile : Dockerfile}

theorem baseImage_ne_nil (dockerfile : Dockerfile) : baseImage dockerfile ≠ [] :=
  List.cons_ne_nil _ _

theorem contextCopies_eq_nil_iff {hasIgnoreFile : Bool} :
    contextCopies dockerfile hasIgnoreFile = [] ↔ dockerfile.firstContextCopy? = none := by
  rw [contextCopies]
  cases dockerfile.firstContextCopy? with
  | none => exact iff_of_true rfl rfl
  | some copy => exact iff_of_false (List.cons_ne_nil _ _) (Option.some_ne_none copy)

theorem packageCaches_eq_nil_iff {instructions : List Instruction} :
    packageCaches instructions = [] ↔
      ∀ run ∈ instructions, run.is "RUN" = true → ∀ manager ∈ PackageManager.known,
        manager.leavesCache run.arguments = false := by
  simp only [packageCaches, List.flatMap_eq_nil_iff, List.mem_filter, and_imp, List.map_eq_nil_iff,
    List.filter_eq_nil_iff, Bool.not_eq_true]

private theorem ite_nil_left_iff {condition : Prop} [Decidable condition] {finding : Issue} :
    (if condition then [] else [finding]) = [] ↔ condition := by
  simp

private theorem ite_nil_right_iff {condition : Prop} [Decidable condition] {finding : Issue} :
    (if condition then [finding] else []) = [] ↔ ¬condition := by
  simp

theorem bestPractices_eq_nil_iff (hasIgnoreFile : Bool) :
    bestPractices dockerfile hasIgnoreFile = [] ↔ dockerfile.FollowsPractices := by
  simp only [bestPractices, List.append_eq_nil_iff, contextCopies_eq_nil_iff,
    Option.toList_eq_nil_iff, Option.map_eq_none_iff, ite_nil_left_iff, ite_nil_right_iff,
    packageCaches_eq_nil_iff, Bool.not_eq_true, Dockerfile.firstContextCopy?_eq_none_iff,
    Dockerfile.first?_eq_none_iff, Dockerfile.has_eq_true_iff,
    PackageManager.leavesCache_eq_false_iff, Image.isUnpinned_eq_false_iff]
  constructor
  · rintro ⟨⟨⟨⟨⟨copies, adds⟩, healthcheck⟩, user⟩, caches⟩, pinned⟩
    exact ⟨copies, adds, healthcheck, user, caches, pinned⟩
  · intro follows
    exact ⟨⟨⟨⟨⟨follows.noContextCopy, follows.noAdd⟩, follows.healthcheck⟩, follows.user⟩,
      follows.cleansUp⟩, follows.pinned⟩

/-- Of the users only the first has to be asked for: if it is not root, some user is not.  Arguments
are compared as they are, so they have to be trimmed. -/
theorem security_eq_nil_iff
    (trimmed : ∀ instruction ∈ dockerfile.instructions,
      Text.trim instruction.arguments = instruction.arguments) :
    security dockerfile = [] ↔ dockerfile.IsSecured := by
  have user : dockerfile.has "USER" = true ∧ ¬dockerfile.startsAsRoot = true ↔
      ∃ user, dockerfile.first? "USER" = some user ∧
        user.arguments ≠ ("root" : Text) ∧ user.arguments ≠ ("0" : Text) := by
    rw [Dockerfile.hasUser_and_not_startsAsRoot_iff]
    refine exists_congr fun user => and_congr_right fun first => ?_
    have member := (Dockerfile.mem_of_first? first).1
    rw [Instruction.namesRoot_eq_true_iff (trimmed user member), not_or]
  simp only [security, List.append_eq_nil_iff, Option.toList_eq_nil_iff, Option.map_eq_none_iff,
    ite_nil_left_iff, ite_nil_right_iff, not_or, not_and, not_not]
  constructor
  · rintro ⟨⟨⟨⟨⟨⟨⟨started, some⟩, remote⟩, ports⟩, owned⟩, other⟩, healthcheck⟩, argument⟩
    have ownedCopy : dockerfile.hasOwnedCopy = true := by
      by_contra none
      exact owned none other
    exact
      { user := user.mp ⟨some, started⟩
        ownedCopy := Dockerfile.hasOwnedCopy_eq_true_iff.mp ownedCopy
        healthcheck := Dockerfile.has_eq_true_iff.mp healthcheck
        noRemoteAdd := Dockerfile.firstRemoteAdd?_eq_none_iff.mp remote
        noPorts := Dockerfile.exposedPorts_eq_nil_iff.mp ports
        noEarlyArgument := Dockerfile.argumentBeforeStage?_eq_none_iff.mp argument }
  · intro secured
    obtain ⟨some, started⟩ := user.mpr secured.user
    obtain ⟨first, found, named⟩ := Dockerfile.hasUser_and_not_startsAsRoot_iff.mp ⟨some, started⟩
    have owned := Dockerfile.hasOwnedCopy_eq_true_iff.mpr secured.ownedCopy
    exact ⟨⟨⟨⟨⟨⟨⟨started, some⟩, Dockerfile.firstRemoteAdd?_eq_none_iff.mpr secured.noRemoteAdd⟩,
      Dockerfile.exposedPorts_eq_nil_iff.mpr secured.noPorts⟩, fun none => absurd owned none⟩,
      Dockerfile.hasOtherUser_of_first? found named⟩,
      Dockerfile.has_eq_true_iff.mpr secured.healthcheck⟩,
      Dockerfile.argumentBeforeStage?_eq_none_iff.mpr secured.noEarlyArgument⟩

end Check

end DockerfileLint
