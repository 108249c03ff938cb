import DockerfileLint.Proofs.Check.Findings
import DockerfileLint.Proofs.Dockerfile.Position

/-! Groups of checks that look at the same facts.  Each group has its own questions to the
Dockerfile, about the first `USER`, any `USER` or a `USER` other than root, and about any `ADD` or
a remote one, and still no answer goes against another. -/

namespace DockerfileLint

namespace Dockerfile

variable {dockerfile : Dockerfile} {instruction : Instruction}

theorem startsAsRoot_or_userless (absent : dockerfile.hasOtherUser = false) :
    dockerfile.startsAsRoot = true ∨ dockerfile.has "USER" = false := by
  by_contra neither
  obtain ⟨starts, some⟩ := not_or.mp neither
  rw [Bool.not_eq_false] at some
  obtain ⟨user, first, named⟩ := hasUser_and_not_startsAsRoot_iff.mp ⟨some, starts⟩
  rw [hasOtherUser_of_first? first named] at absent
  cases absent

theorem hasOtherUser_eq_false_of_userless (userless : dockerfile.has "USER" = false) :
    dockerfile.hasOtherUser = false := by
  by_contra other
  rw [Bool.not_eq_false] at other
  obtain ⟨user, member, named, _⟩ := hasOtherUser_eq_true_iff.mp other
  rw [has_eq_false_iff.mp userless user member] at named
  cases named

theorem firstLine?_eq_none_of_missing {keyword : Text} (missing : dockerfile.has keyword = false) :
    dockerfile.firstLine? keyword = none := by
  rw [firstLine?, Option.map_eq_none_iff, first?_eq_none_iff]
  exact has_eq_false_iff.mp missing

/-- A remote `ADD` is an `ADD`, so the first of all is no later than the first of those. -/
theorem exists_first?_of_firstRemoteAdd? (ordered : dockerfile.Ordered)
    (remote : dockerfile.firstRemoteAdd? = some instruction) :
    ∃ add, dockerfile.first? "ADD" = some add ∧ add.line ≤ instruction.line := by
  have found := firstRemoteAdd?_eq_some_iff.mp remote
  have present : dockerfile.has "ADD" = true :=
    has_eq_true_iff.mpr ⟨instruction, found.mem, found.holds.1⟩
  obtain ⟨add, first⟩ := has_eq_true_iff_first?.mp present
  exact ⟨add, first, ordered.line_le (first?_eq_some_iff.mp first) found.mem found.holds.1⟩

end Dockerfile

namespace Check

def Reports (issues : List Issue) (topic : Topic) : Prop := ∃ issue ∈ issues, issue.IsAbout topic

variable {dockerfile : Dockerfile} {hasIgnoreFile : Bool} {issue : Issue} {topic : Topic}

theorem reports_bestPractices_iff :
    Reports (bestPractices dockerfile hasIgnoreFile) topic ↔
      ∃ issue, PracticeFinding dockerfile hasIgnoreFile topic issue := by
  constructor
  · rintro ⟨issue, member, about⟩
    exact ⟨issue, .of_mem member about⟩
  · rintro ⟨issue, reported⟩
    exact ⟨issue, mem_bestPractices_iff.mpr ⟨topic, reported⟩, reported.isAbout⟩

theorem reports_security_iff :
    Reports (security dockerfile) topic ↔ ∃ issue, SecurityFinding dockerfile topic issue := by
  constructor
  · rintro ⟨issue, member, about⟩
    exact ⟨issue, .of_mem member about⟩
  · rintro ⟨issue, reported⟩
    exact ⟨issue, mem_security_iff.mpr ⟨topic, reported⟩, reported.isAbout⟩

/-- The warning about a floating tag, as it is given next to the base image. -/
theorem eq_unpinnedWarning_of_mem_baseImage (member : issue ∈ baseImage dockerfile)
    (about : issue.IsAbout .floatingTag) :
    Image.isUnpinned dockerfile.baseImage = true ∧
      issue = (unpinnedWarning dockerfile.baseImage).atLine issue.line := by
  obtain ⟨finding, reported, rfl⟩ := mem_baseImage_iff.mp member
  have unlocated : finding.IsAbout .floatingTag := about
  obtain ⟨floats, rfl⟩ := reported.floats_of_isAbout unlocated
  exact ⟨floats, rfl⟩

theorem reports_floatingTag_iff :
    Reports (baseImage dockerfile) .floatingTag ↔
      Reports (bestPractices dockerfile hasIgnoreFile) .floatingTag := by
  rw [reports_bestPractices_iff]
  constructor
  · rintro ⟨issue, member, about⟩
    exact ⟨_, .floatingTag (eq_unpinnedWarning_of_mem_baseImage member about).1⟩
  · rintro ⟨issue, reported⟩
    have about := reported.isAbout
    cases reported with
    | floatingTag floats =>
      exact ⟨_, mem_baseImage_iff.mpr ⟨_, .unpinned floats, rfl⟩, about⟩

theorem reports_healthcheck_iff :
    Reports (bestPractices dockerfile hasIgnoreFile) .healthcheck ↔
      Reports (security dockerfile) .healthMonitoring := by
  rw [reports_bestPractices_iff, reports_security_iff]
  constructor
  · rintro ⟨issue, reported⟩
    cases reported with
    | healthcheck missing => exact ⟨_, .healthMonitoring missing⟩
  · rintro ⟨issue, reported⟩
    cases reported with
    | healthMonitoring missing => exact ⟨_, .healthcheck missing⟩

/-- Where best practice misses a user, security misses one other than root, and blames root without
a line to point at. -/
theorem security_of_reports_user (userless : Reports (bestPractices dockerfile hasIgnoreFile) .user) :
    Reports (security dockerfile) .rootUser ∧
      (∀ issue ∈ security dockerfile, issue.IsAbout .rootUser → issue.line = none) ∧
      Reports (security dockerfile) .otherUser := by
  obtain ⟨warning, reported⟩ := reports_bestPractices_iff.mp userless
  cases reported with
  | user missing =>
    refine ⟨reports_security_iff.mpr ⟨_, .rootUser (.inr missing)⟩, ?_,
      reports_security_iff.mpr
        ⟨_, .otherUser (Dockerfile.hasOtherUser_eq_false_of_userless missing)⟩⟩
    intro issue member about
    cases SecurityFinding.of_mem member about with
    | rootUser root => exact Dockerfile.firstLine?_eq_none_of_missing missing

theorem security_of_reports_otherUser (rooted : Reports (security dockerfile) .otherUser) :
    Reports (security dockerfile) .rootUser ∧ ¬Reports (security dockerfile) .copyOwner := by
  obtain ⟨finding, reported⟩ := reports_security_iff.mp rooted
  cases reported with
  | otherUser missing =>
    refine ⟨reports_security_iff.mpr
      ⟨_, .rootUser (Dockerfile.startsAsRoot_or_userless missing)⟩, ?_⟩
    intro blamed
    obtain ⟨copy, unowned⟩ := reports_security_iff.mp blamed
    cases unowned with
    | copyOwner unowned other =>
      rw [missing] at other
      cases other

theorem exists_addWarning_of_remoteAdd (ordered : dockerfile.Ordered)
    (member : issue ∈ security dockerfile) (about : issue.IsAbout .remoteAdd) :
    ∃ warning ∈ bestPractices dockerfile hasIgnoreFile, warning.IsAbout .add ∧
      ∃ first line, warning.line = some first ∧ issue.line = some line ∧ first ≤ line := by
  cases SecurityFinding.of_mem member about with
  | remoteAdd remote =>
    obtain ⟨add, first, before⟩ := Dockerfile.exists_first?_of_firstRemoteAdd? ordered remote
    have reported : PracticeFinding dockerfile hasIgnoreFile .add (addWarning add.line) :=
      .add first
    exact ⟨_, mem_bestPractices_iff.mpr ⟨_, reported⟩, reported.isAbout, _, _, rfl, rfl, before⟩

/-- The groups never contradict each other.  Those that look at the tag give the same warning, up to
its line; those that look for a health check miss it together; who misses a user is seen to run as
root; and a remote `ADD` is reported as an `ADD` as well, no later. -/
theorem groups_agree (path content : Text) (hasIgnoreFile : Bool) :
    let dockerfile := Dockerfile.parse path content
    let image := baseImage dockerfile
    let practices := bestPractices dockerfile hasIgnoreFile
    let secured := security dockerfile
    ((Reports image .floatingTag ↔ Reports practices .floatingTag) ∧
      ∀ issue ∈ image, issue.IsAbout .floatingTag →
        ∀ other ∈ practices, other.IsAbout .floatingTag → issue = other.atLine issue.line) ∧
      (Reports practices .healthcheck ↔ Reports secured .healthMonitoring) ∧
      (Reports practices .user →
        Reports secured .rootUser ∧
          (∀ issue ∈ secured, issue.IsAbout .rootUser → issue.line = none) ∧
          Reports secured .otherUser) ∧
      (Reports secured .otherUser →
        Reports secured .rootUser ∧ ¬Reports secured .copyOwner) ∧
      ∀ issue ∈ secured, issue.IsAbout .remoteAdd →
        ∃ warning ∈ practices, warning.IsAbout .add ∧
          ∃ first line, warning.line = some first ∧ issue.line = some line ∧ first ≤ line := by
  intro dockerfile image practices secured
  have ordered : dockerfile.Ordered := Dockerfile.ordered_parse path content
  refine ⟨⟨reports_floatingTag_iff, ?_⟩, reports_healthcheck_iff, security_of_reports_user,
    security_of_reports_otherUser,
    fun issue member about => exists_addWarning_of_remoteAdd ordered member about⟩
  intro issue member about other present same
  have warning := (eq_unpinnedWarning_of_mem_baseImage member about).2
  cases PracticeFinding.of_mem present same with
  | floatingTag floats => exact warning

/-- No user at all, and a remote `ADD` after one that is not. -/
theorem groups_agree_userless :
    let dockerfile := Dockerfile.parse [] "FROM a\nADD b c\nADD http://d e\n"
    let practices := bestPractices dockerfile true
    let secured := security dockerfile
    Reports practices .user ∧ Reports secured .rootUser ∧ Reports secured .otherUser ∧
      ¬Reports secured .copyOwner ∧
      remoteAddFinding 3 ∈ secured ∧
      ∃ warning ∈ practices, warning.IsAbout .add ∧
        ∃ first line, warning.line = some first ∧ (remoteAddFinding 3).line = some line ∧
          first ≤ line := by
  intro dockerfile practices secured
  have userless : dockerfile.has "USER" = false := by decide +kernel
  have remote : dockerfile.firstRemoteAdd? = some
      { keyword := "ADD", arguments := "http://d e", line := 3, source := "ADD http://d e" } := by
    decide +kernel
  have missing : Reports practices .user := reports_bestPractices_iff.mpr ⟨_, .user userless⟩
  have reported : SecurityFinding dockerfile .remoteAdd (remoteAddFinding 3) := .remoteAdd remote
  have member : remoteAddFinding 3 ∈ secured := mem_security_iff.mpr ⟨_, reported⟩
  obtain ⟨_, _, user, other, add⟩ :=
    groups_agree [] "FROM a\nADD b c\nADD http://d e\n" true
  obtain ⟨root, _, rooted⟩ := user missing
  exact ⟨missing, root, rooted, (other rooted).2, member, add _ member reported.isAbout⟩

end Check

end DockerfileLint
