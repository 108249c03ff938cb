import DockerfileLint.Proofs.Check.Findings
import DockerfileLint.Proofs.Dockerfile.Position

namespace DockerfileLint

/-- Findings about what a Dockerfile lacks, so that there is no line to point at. -/
def Topic.isPlaceless : Topic → Bool
  | .ignoreFile | .healthcheck | .user | .otherUser | .healthMonitoring => true
  | _ => false

theorem PackageManager.leavesCache_eq_true_iff {manager : PackageManager} {command : Text} :
    manager.leavesCache command = true ↔
      (∃ install ∈ manager.installs, install <:+: command) ∧
        ∀ cleanup ∈ manager.cleanups, ¬cleanup <:+: command := by
  rw [PackageManager.leavesCache, Bool.and_eq_true, Bool.not_eq_true', List.any_eq_true,
    List.any_eq_false]
  simp only [Text.contains_iff_infix]

namespace Check

variable {dockerfile : Dockerfile} {hasIgnoreFile : Bool} {issue : Issue} {topic : Topic}
variable {line : Nat}

/-- A finding with the line of an instruction, and what the instruction has to be for it. -/
inductive PointsAt (dockerfile : Dockerfile) (instruction : Instruction) : Issue → Prop where
  | baseImage {finding : Issue} (reported : BaseImageFinding dockerfile.baseImage finding)
      (first : dockerfile.IsFirst (·.is "FROM" = true) instruction) :
      PointsAt dockerfile instruction (finding.atLine (some instruction.line))
  | contextCopy (first : dockerfile.IsFirst (fun copy => copy.is "COPY" = true ∧
        ((" . " : Text) <:+: copy.arguments ∨ (" ." : Text) <:+ copy.arguments)) instruction) :
      PointsAt dockerfile instruction (contextCopyWarning instruction.line)
  | add (first : dockerfile.IsFirst (·.is "ADD" = true) instruction) :
      PointsAt dockerfile instruction (addWarning instruction.line)
  | packageCache {manager : PackageManager} (known : manager ∈ PackageManager.known)
      (named : instruction.is "RUN" = true)
      (installs : ∃ install ∈ manager.installs, install <:+: instruction.arguments)
      (keeps : ∀ cleanup ∈ manager.cleanups, ¬cleanup <:+: instruction.arguments) :
      PointsAt dockerfile instruction (packageCacheWarning manager instruction.line)
  | rootUser (first : dockerfile.IsFirst (·.is "USER" = true) instruction)
      (root : instruction.arguments = ("root" : Text) ∨ instruction.arguments = ("0" : Text)) :
      PointsAt dockerfile instruction (rootUserFinding (some instruction.line))
  | remoteAdd (first : dockerfile.IsFirst (fun add => add.is "ADD" = true ∧
        (("http://" : Text) <:+: add.arguments ∨ ("https://" : Text) <:+: add.arguments))
        instruction) :
      PointsAt dockerfile instruction (remoteAddFinding instruction.line)
  | exposedPorts (first : dockerfile.IsFirst (·.is "EXPOSE" = true) instruction) :
      PointsAt dockerfile instruction
        (exposedPortsFinding dockerfile.exposedPorts (some instruction.line))
  | copyOwner (first : dockerfile.IsFirst (·.is "COPY" = true) instruction)
      (unowned : ∀ token ∈ instruction.tokens,
        ¬(token = ("--chown" : Text) ∨ ("--chown=" : Text) <+: token)) :
      PointsAt dockerfile instruction (copyOwnerFinding (some instruction.line))
  /-- The first `ARG` of all, and before any `FROM`. -/
  | earlyArgument (named : instruction.is "ARG" = true)
      (first : dockerfile.IsFirst (fun i => i.is "ARG" = true ∨ i.is "FROM" = true) instruction) :
      PointsAt dockerfile instruction (earlyArgumentFinding instruction.line)

theorem exists_pointsAt_of_mem_baseImage (member : issue ∈ baseImage dockerfile)
    (located : issue.line = some line) :
    ∃ stage ∈ dockerfile.instructions, stage.line = line ∧ PointsAt dockerfile stage issue := by
  obtain ⟨finding, reported, rfl⟩ := mem_baseImage_iff.mp member
  obtain ⟨stage, first, rfl⟩ := Dockerfile.firstLine?_eq_some_iff.mp located
  have same : dockerfile.firstLine? "FROM" = some stage.line := located
  rw [same]
  exact ⟨stage, first.mem, rfl, .baseImage reported first⟩

theorem exists_pointsAt_of_mem_bestPractices (member : issue ∈ bestPractices dockerfile hasIgnoreFile)
    (located : issue.line = some line) :
    ∃ instruction ∈ dockerfile.instructions,
      instruction.line = line ∧ PointsAt dockerfile instruction issue := by
  obtain ⟨topic, reported⟩ := mem_bestPractices_iff.mp member
  cases reported with
  | contextCopy found =>
    have first := Dockerfile.firstContextCopy?_eq_some_iff.mp found
    exact ⟨_, first.mem, Option.some.inj located, .contextCopy first⟩
  | add found =>
    have first := Dockerfile.first?_eq_some_iff.mp found
    exact ⟨_, first.mem, Option.some.inj located, .add first⟩
  | packageCache present named known leaves =>
    obtain ⟨installs, keeps⟩ := PackageManager.leavesCache_eq_true_iff.mp leaves
    exact ⟨_, present, Option.some.inj located, .packageCache known named installs keeps⟩
  | ignoreFile => cases located
  | healthcheck => cases located
  | user => cases located
  | floatingTag => cases located

/-- Arguments are compared with `root` as they are, so they have to be trimmed. -/
theorem exists_pointsAt_of_mem_security
    (trimmed : ∀ instruction ∈ dockerfile.instructions,
      Text.trim instruction.arguments = instruction.arguments)
    (member : issue ∈ security dockerfile) (located : issue.line = some line) :
    ∃ instruction ∈ dockerfile.instructions,
      instruction.line = line ∧ PointsAt dockerfile instruction issue := by
  obtain ⟨topic, reported⟩ := mem_security_iff.mp member
  cases reported with
  | rootUser root =>
    have found : dockerfile.firstLine? "USER" = some line := located
    obtain ⟨user, first, rfl⟩ := Dockerfile.firstLine?_eq_some_iff.mp found
    have present : dockerfile.has "USER" = true :=
      Dockerfile.has_eq_true_iff.mpr ⟨user, first.mem, first.holds⟩
    have starts : dockerfile.startsAsRoot = true :=
      root.resolve_right (ne_false_of_eq_true present)
    rw [Dockerfile.startsAsRoot, Dockerfile.first?_eq_some_iff.mpr first] at starts
    have named := (Instruction.namesRoot_eq_true_iff (trimmed user first.mem)).mp starts
    rw [found]
    exact ⟨user, first.mem, rfl, .rootUser first named⟩
  | remoteAdd found =>
    have first := Dockerfile.firstRemoteAdd?_eq_some_iff.mp found
    exact ⟨_, first.mem, Option.some.inj located, .remoteAdd first⟩
  | exposedPorts exposed =>
    have found : dockerfile.firstLine? "EXPOSE" = some line := located
    obtain ⟨expose, first, rfl⟩ := Dockerfile.firstLine?_eq_some_iff.mp found
    rw [found]
    exact ⟨expose, first.mem, rfl, .exposedPorts first⟩
  | copyOwner unowned other =>
    have found : dockerfile.firstLine? "COPY" = some line := located
    obtain ⟨copy, first, rfl⟩ := Dockerfile.firstLine?_eq_some_iff.mp found
    rw [found]
    refine ⟨copy, first.mem, rfl, .copyOwner first ?_⟩
    intro token inside owned
    have some := Dockerfile.hasOwnedCopy_eq_true_iff.mpr
      ⟨copy, first.mem, first.holds, token, inside, owned⟩
    rw [unowned] at some
    cases some
  | earlyArgument found =>
    obtain ⟨named, first⟩ := Dockerfile.isFirst_of_argumentBeforeStage? found
    exact ⟨_, first.mem, Option.some.inj located, .earlyArgument named first⟩
  | otherUser => cases located
  | healthMonitoring => cases located

theorem line_eq_none_of_mem_layers {image : Text} {history : LayerHistory} {limits : LayerLimits}
    (member : issue ∈ layers dockerfile image history limits) : issue.line = none := by
  cases layerFinding_of_mem_layers member <;> rfl

theorem PracticeFinding.line_eq_none (reported : PracticeFinding dockerfile hasIgnoreFile topic issue)
    (placeless : topic.isPlaceless = true) : issue.line = none := by
  cases reported with
  | ignoreFile => rfl
  | healthcheck => rfl
  | user => rfl
  | contextCopy => cases placeless
  | add => cases placeless
  | packageCache => cases placeless
  | floatingTag => cases placeless

theorem SecurityFinding.line_eq_none (reported : SecurityFinding dockerfile topic issue)
    (placeless : topic.isPlaceless = true) : issue.line = none := by
  cases reported with
  | otherUser => rfl
  | healthMonitoring => rfl
  | rootUser => cases placeless
  | remoteAdd => cases placeless
  | exposedPorts => cases placeless
  | copyOwner => cases placeless
  | earlyArgument => cases placeless

theorem not_isAbout_of_mem_baseImage (member : issue ∈ baseImage dockerfile)
    (placeless : topic.isPlaceless = true) : ¬issue.IsAbout topic := by
  intro about
  obtain ⟨finding, reported, rfl⟩ := mem_baseImage_iff.mp member
  have unlocated : finding.IsAbout topic := about
  obtain ⟨floats, rfl⟩ := reported.floats_of_isAbout unlocated
  have practice : PracticeFinding dockerfile true .floatingTag _ := .floatingTag floats
  rw [unlocated.eq practice.isAbout] at placeless
  cases placeless

end Check

end DockerfileLint
