import DockerfileLint.Check.BestPractices
import DockerfileLint.Check.Layers
import DockerfileLint.Check.Security
import Mathlib.Data.List.Infix

namespace DockerfileLint

/-- What a finding of best practice or about security is about. -/
inductive Topic where
  | floatingTag
  | contextCopy
  | ignoreFile
  | add
  | healthcheck
  | user
  | packageCache
  | rootUser
  | remoteAdd
  | exposedPorts
  | copyOwner
  | otherUser
  | healthMonitoring
  | earlyArgument
deriving DecidableEq

namespace Topic

def opening : Topic → Text
  | .floatingTag => "Using ':latest' tag"
  | .contextCopy => "COPY . . used"
  | .ignoreFile => "No `.dockerignore` found"
  | .add => "Using ADD instead of COPY"
  | .healthcheck => "No HEALTHCHECK found"
  | .user => "USER not specified"
  | .packageCache => "Package installation"
  | .rootUser => "Container runs as root"
  | .remoteAdd => "Using ADD with URL"
  | .exposedPorts => "EXPOSE ports found"
  | .copyOwner => "COPY without --chown"
  | .otherUser => "No non-root USER"
  | .healthMonitoring => "No HEALTHCHECK; add one"
  | .earlyArgument => "ARG used before FROM"

def all : List Topic :=
  [.floatingTag, .contextCopy, .ignoreFile, .add, .healthcheck, .user, .packageCache, .rootUser,
   .remoteAdd, .exposedPorts, .copyOwner, .otherUser, .healthMonitoring, .earlyArgument]

theorem mem_all (topic : Topic) : topic ∈ all := by
  cases topic <;> decide

private theorem eq_of_begins_of_mem :
    ∀ first ∈ all, ∀ second ∈ all, first.opening <+: second.opening → first = second := by
  decide

/-- No message on one topic begins like those on another. -/
theorem eq_of_begins {first second : Topic} (begins : first.opening <+: second.opening) :
    first = second :=
  eq_of_begins_of_mem first first.mem_all second second.mem_all begins

end Topic

namespace Issue

variable {issue : Issue} {first second : Topic}

def IsAbout (issue : Issue) (topic : Topic) : Prop := topic.opening <+: issue.message

theorem IsAbout.eq (one : issue.IsAbout first) (other : issue.IsAbout second) : first = second := by
  rcases List.prefix_or_prefix_of_prefix one other with begins | begins
  · exact Topic.eq_of_begins begins
  · exact (Topic.eq_of_begins begins).symm

end Issue

/-- Texts that are written out are compared character by character. -/
theorem Text.begins_written {left right : List Char} (begins : left <+: right) :
    (String.ofList left).toList <+: (String.ofList right).toList := by
  rwa [String.toList_ofList, String.toList_ofList]

namespace Check

open Text (begins_written)

variable {dockerfile : Dockerfile} {hasIgnoreFile : Bool} {issue : Issue} {topic : Topic}

/-- What there is to say about an image, before a line is given to it. -/
inductive BaseImageFinding (image : Text) : Issue → Prop where
  | note : BaseImageFinding image (baseImageNote image)
  | large {name alternative : Text} (known : Image.largeImage? image = some (name, alternative)) :
      BaseImageFinding image (largeImageWarning image name alternative)
  | unpinned (floats : Image.isUnpinned image = true) :
      BaseImageFinding image (unpinnedWarning image)

theorem mem_baseImage_iff :
    issue ∈ baseImage dockerfile ↔
      ∃ finding, BaseImageFinding dockerfile.baseImage finding ∧
        finding.atLine (dockerfile.firstLine? "FROM") = issue := by
  rw [baseImage, List.mem_map]
  refine exists_congr fun finding => and_congr_left fun _ => ?_
  rw [List.mem_append, List.mem_cons]
  constructor
  · rintro ((rfl | large) | unpinned)
    · exact .note
    · split at large
      · rename_i name alternative known
        rw [List.mem_singleton.mp large]
        exact .large known
      · cases large
    · split at unpinned
      · rename_i floats
        rw [List.mem_singleton.mp unpinned]
        exact .unpinned floats
      · cases unpinned
  · intro reported
    cases reported with
    | note => exact .inl (.inl rfl)
    | large known =>
      rw [known]
      exact .inl (.inr (List.mem_singleton.mpr rfl))
    | unpinned floats =>
      rw [if_pos floats]
      exact .inr (List.mem_singleton.mpr rfl)

/-- A message is on no topic if its first words are neither those of the topic nor part of them. -/
private theorem not_isAbout_of_begins {start : Text} (begins : start <+: issue.message)
    (apart : ¬topic.opening <+: start ∧ ¬start <+: topic.opening) : ¬issue.IsAbout topic := by
  intro about
  rcases List.prefix_or_prefix_of_prefix about begins with shorter | longer
  · exact apart.1 shorter
  · exact apart.2 longer

private theorem note_apart :
    ∀ topic ∈ Topic.all, ¬topic.opening <+: ("Base image: " : Text) ∧
      ¬("Base image: " : Text) <+: topic.opening := by
  decide

private theorem large_apart :
    ∀ topic ∈ Topic.all, ¬topic.opening <+: ("Using large base image (" : Text) ∧
      ¬("Using large base image (" : Text) <+: topic.opening := by
  decide

/-- Of all topics, what is found about an image can only be about a floating tag. -/
theorem BaseImageFinding.floats_of_isAbout {image : Text} (reported : BaseImageFinding image issue)
    (about : issue.IsAbout topic) :
    Image.isUnpinned image = true ∧ issue = unpinnedWarning image := by
  cases reported with
  | note =>
    have begins : ("Base image: " : Text) <+: (baseImageNote image).message :=
      List.prefix_append _ _
    exact absurd about (not_isAbout_of_begins begins (note_apart topic topic.mem_all))
  | @large name alternative known =>
    have begins : ("Using large base image (" : Text) <+:
        (largeImageWarning image name alternative).message :=
      (List.prefix_append _ _).trans (List.prefix_append _ _)
    exact absurd about (not_isAbout_of_begins begins (large_apart topic topic.mem_all))
  | unpinned floats => exact ⟨floats, rfl⟩

inductive PracticeFinding (dockerfile : Dockerfile) (hasIgnoreFile : Bool) :
    Topic → Issue → Prop where
  | contextCopy {copy : Instruction} (found : dockerfile.firstContextCopy? = some copy) :
      PracticeFinding dockerfile hasIgnoreFile .contextCopy (contextCopyWarning copy.line)
  | ignoreFile {copy : Instruction} (found : dockerfile.firstContextCopy? = some copy)
      (missing : hasIgnoreFile = false) :
      PracticeFinding dockerfile hasIgnoreFile .ignoreFile missingIgnoreFileWarning
  | add {add : Instruction} (found : dockerfile.first? "ADD" = some add) :
      PracticeFinding dockerfile hasIgnoreFile .add (addWarning add.line)
  | healthcheck (missing : dockerfile.has "HEALTHCHECK" = false) :
      PracticeFinding dockerfile hasIgnoreFile .healthcheck missingHealthcheckWarning
  | user (missing : dockerfile.has "USER" = false) :
      PracticeFinding dockerfile hasIgnoreFile .user missingUserWarning
  | packageCache {run : Instruction} {manager : PackageManager}
      (present : run ∈ dockerfile.instructions) (named : run.is "RUN" = true)
      (known : manager ∈ PackageManager.known)
      (leaves : manager.leavesCache run.arguments = true) :
      PracticeFinding dockerfile hasIgnoreFile .packageCache (packageCacheWarning manager run.line)
  | floatingTag (floats : Image.isUnpinned dockerfile.baseImage = true) :
      PracticeFinding dockerfile hasIgnoreFile .floatingTag (unpinnedWarning dockerfile.baseImage)

theorem PracticeFinding.isAbout (reported : PracticeFinding dockerfile hasIgnoreFile topic issue) :
    issue.IsAbout topic := by
  cases reported with
  | contextCopy found =>
    unfold Issue.IsAbout Topic.opening contextCopyWarning
    dsimp only
    exact begins_written (by decide)
  | ignoreFile found missing =>
    unfold Issue.IsAbout Topic.opening missingIgnoreFileWarning
    dsimp only
    exact begins_written (by decide)
  | add found =>
    unfold Issue.IsAbout Topic.opening addWarning
    dsimp only
    exact begins_written (by decide)
  | healthcheck missing =>
    unfold Issue.IsAbout Topic.opening missingHealthcheckWarning
    dsimp only
    exact begins_written (by decide)
  | user missing =>
    unfold Issue.IsAbout Topic.opening missingUserWarning
    dsimp only
    exact begins_written (by decide)
  | packageCache present named known leaves =>
    unfold Issue.IsAbout Topic.opening packageCacheWarning
    dsimp only
    refine List.IsPrefix.trans ?_ ((List.prefix_append _ _).trans (List.prefix_append _ _))
    exact begins_written (by decide)
  | floatingTag floats =>
    unfold Issue.IsAbout Topic.opening unpinnedWarning
    dsimp only
    exact begins_written (by decide)

theorem mem_packageCaches_iff {instructions : List Instruction} :
    issue ∈ packageCaches instructions ↔
      ∃ run ∈ instructions, run.is "RUN" = true ∧ ∃ manager ∈ PackageManager.known,
        manager.leavesCache run.arguments = true ∧ packageCacheWarning manager run.line = issue := by
  simp only [packageCaches, List.mem_flatMap, List.mem_filter, List.mem_map, and_assoc]

theorem mem_contextCopies_iff :
    issue ∈ contextCopies dockerfile hasIgnoreFile ↔
      ∃ copy, dockerfile.firstContextCopy? = some copy ∧
        (issue = contextCopyWarning copy.line ∨
          hasIgnoreFile = false ∧ issue = missingIgnoreFileWarning) := by
  rw [contextCopies]
  cases dockerfile.firstContextCopy? with
  | none => simp
  | some copy => cases hasIgnoreFile <;> simp

theorem mem_bestPractices_iff :
    issue ∈ bestPractices dockerfile hasIgnoreFile ↔
      ∃ topic, PracticeFinding dockerfile hasIgnoreFile topic issue := by
  simp only [bestPractices, List.mem_append, mem_contextCopies_iff, Option.mem_toList,
    Option.map_eq_some_iff, List.mem_ite_nil_left, List.mem_ite_nil_right, List.mem_singleton,
    mem_packageCaches_iff, Bool.not_eq_true]
  constructor
  · rintro (((((⟨copy, found, rfl | ⟨missing, rfl⟩⟩ | ⟨add, found, rfl⟩) | ⟨missing, rfl⟩) |
      ⟨missing, rfl⟩) | ⟨run, present, named, manager, known, leaves, rfl⟩) | ⟨floats, rfl⟩)
    · exact ⟨_, .contextCopy found⟩
    · exact ⟨_, .ignoreFile found missing⟩
    · exact ⟨_, .add found⟩
    · exact ⟨_, .healthcheck missing⟩
    · exact ⟨_, .user missing⟩
    · exact ⟨_, .packageCache present named known leaves⟩
    · exact ⟨_, .floatingTag floats⟩
  · rintro ⟨topic, reported⟩
    cases reported with
    | contextCopy found => exact .inl (.inl (.inl (.inl (.inl ⟨_, found, .inl rfl⟩))))
    | ignoreFile found missing =>
      exact .inl (.inl (.inl (.inl (.inl ⟨_, found, .inr ⟨missing, rfl⟩⟩))))
    | add found => exact .inl (.inl (.inl (.inl (.inr ⟨_, found, rfl⟩))))
    | healthcheck missing => exact .inl (.inl (.inl (.inr ⟨missing, rfl⟩)))
    | user missing => exact .inl (.inl (.inr ⟨missing, rfl⟩))
    | packageCache present named known leaves =>
      exact .inl (.inr ⟨_, present, named, _, known, leaves, rfl⟩)
    | floatingTag floats => exact .inr ⟨floats, rfl⟩

/-- A message leads back to the reason for it. -/
theorem PracticeFinding.of_mem (member : issue ∈ bestPractices dockerfile hasIgnoreFile)
    (about : issue.IsAbout topic) : PracticeFinding dockerfile hasIgnoreFile topic issue := by
  obtain ⟨other, reported⟩ := mem_bestPractices_iff.mp member
  rwa [about.eq reported.isAbout]

/-- What is found about layers, with the advice that goes with it. -/
inductive LayerFinding (advice : Text) : Issue → Prop where
  | large (index bytes : Nat) : LayerFinding advice (largeLayerWarning advice index bytes)
  | growing (index growth : Nat) : LayerFinding advice (growingLayerWarning advice index growth)

theorem layerFinding_of_mem_layerFindings {advice : Text} {limits : LayerLimits} {previous : Nat}
    {layer : LayerSize} (member : issue ∈ layerFindings advice limits previous layer) :
    LayerFinding advice issue := by
  simp only [layerFindings, List.mem_ite_nil_left, List.mem_append, List.mem_ite_nil_right,
    List.mem_singleton] at member
  obtain ⟨_, ⟨_, rfl⟩ | ⟨_, rfl⟩⟩ := member
  · exact .large layer.index layer.bytes
  · exact .growing layer.index (layer.bytes - previous)

theorem layerFinding_of_mem_layersFindings {advice : Text} {limits : LayerLimits} {previous : Nat}
    {layers : List LayerSize} (member : issue ∈ layersFindings advice limits previous layers) :
    LayerFinding advice issue := by
  induction layers generalizing previous with
  | nil => cases member
  | cons layer rest ih =>
    rcases List.mem_append.mp member with here | later
    · exact layerFinding_of_mem_layerFindings here
    · exact ih later

theorem layerFinding_of_mem_layers {image : Text} {history : LayerHistory} {limits : LayerLimits}
    (member : issue ∈ layers dockerfile image history limits) :
    LayerFinding (Image.multistageAdvice dockerfile.baseImage) issue := by
  rw [layers] at member
  split at member
  · exact layerFinding_of_mem_layersFindings member
  · cases member

inductive SecurityFinding (dockerfile : Dockerfile) : Topic → Issue → Prop where
  | rootUser (root : dockerfile.startsAsRoot = true ∨ dockerfile.has "USER" = false) :
      SecurityFinding dockerfile .rootUser (rootUserFinding (dockerfile.firstLine? "USER"))
  | remoteAdd {add : Instruction} (found : dockerfile.firstRemoteAdd? = some add) :
      SecurityFinding dockerfile .remoteAdd (remoteAddFinding add.line)
  | exposedPorts (exposed : dockerfile.exposedPorts ≠ []) :
      SecurityFinding dockerfile .exposedPorts
        (exposedPortsFinding dockerfile.exposedPorts (dockerfile.firstLine? "EXPOSE"))
  | copyOwner (unowned : dockerfile.hasOwnedCopy = false)
      (other : dockerfile.hasOtherUser = true) :
      SecurityFinding dockerfile .copyOwner (copyOwnerFinding (dockerfile.firstLine? "COPY"))
  | otherUser (missing : dockerfile.hasOtherUser = false) :
      SecurityFinding dockerfile .otherUser missingOtherUserFinding
  | healthMonitoring (missing : dockerfile.has "HEALTHCHECK" = false) :
      SecurityFinding dockerfile .healthMonitoring missingHealthcheckFinding
  | earlyArgument {argument : Instruction}
      (found : dockerfile.argumentBeforeStage? = some argument) :
      SecurityFinding dockerfile .earlyArgument (earlyArgumentFinding argument.line)

theorem isAbout_exposedPortsFinding (ports : List Text) (line : Option Nat) :
    (exposedPortsFinding ports line).IsAbout .exposedPorts := by
  unfold Issue.IsAbout Topic.opening exposedPortsFinding
  dsimp only
  exact begins_written (by decide)

theorem SecurityFinding.isAbout (reported : SecurityFinding dockerfile topic issue) :
    issue.IsAbout topic := by
  cases reported with
  | rootUser root =>
    unfold Issue.IsAbout Topic.opening rootUserFinding
    dsimp only
    exact begins_written (by decide)
  | remoteAdd found =>
    unfold Issue.IsAbout Topic.opening remoteAddFinding
    dsimp only
    exact begins_written (by decide)
  | exposedPorts exposed => exact isAbout_exposedPortsFinding _ _
  | copyOwner unowned other =>
    unfold Issue.IsAbout Topic.opening copyOwnerFinding
    dsimp only
    exact begins_written (by decide)
  | otherUser missing =>
    unfold Issue.IsAbout Topic.opening missingOtherUserFinding
    dsimp only
    exact begins_written (by decide)
  | healthMonitoring missing =>
    unfold Issue.IsAbout Topic.opening missingHealthcheckFinding
    dsimp only
    exact begins_written (by decide)
  | earlyArgument found =>
    unfold Issue.IsAbout Topic.opening earlyArgumentFinding
    dsimp only
    exact begins_written (by decide)

theorem mem_security_iff :
    issue ∈ security dockerfile ↔ ∃ topic, SecurityFinding dockerfile topic issue := by
  simp only [security, List.mem_append, Option.mem_toList, Option.map_eq_some_iff,
    List.mem_ite_nil_left, List.mem_ite_nil_right, List.mem_singleton, Bool.not_eq_true]
  constructor
  · rintro ((((((⟨root, rfl⟩ | ⟨add, found, rfl⟩) | ⟨exposed, rfl⟩) | ⟨⟨unowned, other⟩, rfl⟩) |
      ⟨missing, rfl⟩) | ⟨missing, rfl⟩) | ⟨argument, found, rfl⟩)
    · exact ⟨_, .rootUser root⟩
    · exact ⟨_, .remoteAdd found⟩
    · exact ⟨_, .exposedPorts exposed⟩
    · exact ⟨_, .copyOwner unowned other⟩
    · exact ⟨_, .otherUser missing⟩
    · exact ⟨_, .healthMonitoring missing⟩
    · exact ⟨_, .earlyArgument found⟩
  · rintro ⟨topic, reported⟩
    cases reported with
    | rootUser root => exact .inl (.inl (.inl (.inl (.inl (.inl ⟨root, rfl⟩)))))
    | remoteAdd found => exact .inl (.inl (.inl (.inl (.inl (.inr ⟨_, found, rfl⟩)))))
    | exposedPorts exposed => exact .inl (.inl (.inl (.inl (.inr ⟨exposed, rfl⟩))))
    | copyOwner unowned other => exact .inl (.inl (.inl (.inr ⟨⟨unowned, other⟩, rfl⟩)))
    | otherUser missing => exact .inl (.inl (.inr ⟨missing, rfl⟩))
    | healthMonitoring missing => exact .inl (.inr ⟨missing, rfl⟩)
    | earlyArgument found => exact .inr ⟨_, found, rfl⟩

theorem SecurityFinding.of_mem (member : issue ∈ security dockerfile)
    (about : issue.IsAbout topic) : SecurityFinding dockerfile topic issue := by
  obtain ⟨other, reported⟩ := mem_security_iff.mp member
  rwa [about.eq reported.isAbout]

end Check

end DockerfileLint
