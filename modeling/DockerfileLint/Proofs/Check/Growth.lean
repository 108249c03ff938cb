import DockerfileLint.Proofs.Check.Findings
import DockerfileLint.Proofs.Dockerfile.Growth

namespace DockerfileLint

namespace Topic

/-- Findings for which one instruction is enough, whatever follows it. -/
def showsPresence : Topic → Bool
  | .contextCopy | .ignoreFile | .add | .packageCache | .remoteAdd | .earlyArgument => true
  | _ => false

/-- Findings that an instruction to come may settle. -/
def showsAbsence : Topic → Bool
  | .healthcheck | .user | .rootUser | .otherUser | .healthMonitoring => true
  | _ => false

end Topic

namespace Check

variable {small large : Dockerfile} {hasIgnoreFile : Bool} {topic : Topic} {issue : Issue}

theorem PracticeFinding.grow (grows : small.GrowsTo large) (presence : topic.showsPresence = true)
    (reported : PracticeFinding small hasIgnoreFile topic issue) :
    PracticeFinding large hasIgnoreFile topic issue := by
  cases reported with
  | contextCopy found => exact .contextCopy (grows.find? found)
  | ignoreFile found missing => exact .ignoreFile (grows.find? found) missing
  | add found => exact .add (grows.first? found)
  | packageCache present named known leaves =>
    exact .packageCache (grows.instructions.subset present) named known leaves
  | healthcheck => cases presence
  | user => cases presence
  | floatingTag => cases presence

theorem PracticeFinding.shrink (grows : small.GrowsTo large) (absence : topic.showsAbsence = true)
    (reported : PracticeFinding large hasIgnoreFile topic issue) :
    PracticeFinding small hasIgnoreFile topic issue := by
  cases reported with
  | healthcheck missing => exact .healthcheck (grows.missing missing)
  | user missing => exact .user (grows.missing missing)
  | contextCopy => cases absence
  | ignoreFile => cases absence
  | add => cases absence
  | packageCache => cases absence
  | floatingTag => cases absence

theorem SecurityFinding.grow (grows : small.GrowsTo large) (presence : topic.showsPresence = true)
    (reported : SecurityFinding small topic issue) : SecurityFinding large topic issue := by
  cases reported with
  | remoteAdd found => exact .remoteAdd (grows.find? found)
  | earlyArgument found => exact .earlyArgument (grows.argumentBeforeStage? found)
  | rootUser => cases presence
  | exposedPorts => cases presence
  | copyOwner => cases presence
  | otherUser => cases presence
  | healthMonitoring => cases presence

/-- The finding before may name another line, or none: a `USER` that names root can come later. -/
theorem SecurityFinding.shrink (grows : small.GrowsTo large) (absence : topic.showsAbsence = true)
    (reported : SecurityFinding large topic issue) :
    ∃ earlier, SecurityFinding small topic earlier ∧ earlier.message = issue.message := by
  cases reported with
  | rootUser root => exact ⟨_, .rootUser (grows.runsAsRoot root), rfl⟩
  | otherUser missing => exact ⟨_, .otherUser (grows.missingOtherUser missing), rfl⟩
  | healthMonitoring missing => exact ⟨_, .healthMonitoring (grows.missing missing), rfl⟩
  | remoteAdd => cases absence
  | exposedPorts => cases absence
  | copyOwner => cases absence
  | earlyArgument => cases absence

/-- The finding on exposed ports stays on its line and may only list more ports. -/
theorem SecurityFinding.grow_exposedPorts (grows : small.GrowsTo large)
    (reported : SecurityFinding small .exposedPorts issue) :
    issue = exposedPortsFinding small.exposedPorts issue.line ∧
      SecurityFinding large .exposedPorts (exposedPortsFinding large.exposedPorts issue.line) := by
  cases reported with
  | exposedPorts exposed =>
    have line := grows.firstLine? (Dockerfile.has_expose_of_exposedPorts exposed)
    have more : large.exposedPorts ≠ [] := by
      intro none
      have start := grows.exposedPorts
      rw [none] at start
      exact exposed (List.prefix_nil.mp start)
    refine ⟨rfl, ?_⟩
    have finding : SecurityFinding large .exposedPorts _ := .exposedPorts more
    rwa [line] at finding

theorem baseImage_grow (grows : small.GrowsTo large) (known : small.baseImage ≠ []) :
    baseImage large = baseImage small := by
  rw [baseImage, baseImage, grows.baseImage known, grows.firstLine? (grows.stage known)]

/-- Growing behind a blank line.  What is reported because it is there is reported all the same;
ports are only added to those exposed; the base image, once known, gives the same findings; and what
is reported as missing was reported as missing before. -/
theorem findings_parse_blankLine (path front back : Text) (hasIgnoreFile : Bool) :
    let before := Dockerfile.parse path (front ++ ['\n', '\n'])
    let after := Dockerfile.parse path (front ++ ['\n', '\n'] ++ back)
    (∀ topic issue, topic.showsPresence = true → issue.IsAbout topic →
      (issue ∈ bestPractices before hasIgnoreFile → issue ∈ bestPractices after hasIgnoreFile) ∧
        (issue ∈ security before → issue ∈ security after)) ∧
      (∀ issue ∈ security before, issue.IsAbout .exposedPorts →
        issue = exposedPortsFinding before.exposedPorts issue.line ∧
          before.exposedPorts <+: after.exposedPorts ∧
          exposedPortsFinding after.exposedPorts issue.line ∈ security after) ∧
      (before.baseImage ≠ [] → baseImage after = baseImage before) ∧
      (∀ topic issue, topic.showsAbsence = true → issue.IsAbout topic →
        (issue ∈ bestPractices after hasIgnoreFile →
          ∃ earlier ∈ bestPractices before hasIgnoreFile, earlier.message = issue.message) ∧
        (issue ∈ security after →
          ∃ earlier ∈ security before, earlier.message = issue.message)) := by
  intro before after
  have grows : before.GrowsTo after := Dockerfile.growsTo_parse_blankLine path front back
  refine ⟨?_, ?_, baseImage_grow grows, ?_⟩
  · intro topic issue presence about
    constructor
    · intro member
      have reported := PracticeFinding.of_mem member about
      exact mem_bestPractices_iff.mpr ⟨topic, reported.grow grows presence⟩
    · intro member
      have reported := SecurityFinding.of_mem member about
      exact mem_security_iff.mpr ⟨topic, reported.grow grows presence⟩
  · intro issue member about
    obtain ⟨ports, finding⟩ := (SecurityFinding.of_mem member about).grow_exposedPorts grows
    exact ⟨ports, grows.exposedPorts, mem_security_iff.mpr ⟨_, finding⟩⟩
  · intro topic issue absence about
    constructor
    · intro member
      have earlier := (PracticeFinding.of_mem member about).shrink grows absence
      exact ⟨issue, mem_bestPractices_iff.mpr ⟨topic, earlier⟩, rfl⟩
    · intro member
      obtain ⟨earlier, finding, same⟩ := (SecurityFinding.of_mem member about).shrink grows absence
      exact ⟨earlier, mem_security_iff.mpr ⟨topic, finding⟩, same⟩

/-- One more exposed port, and the user still missing. -/
theorem findings_parse_blankLine_port :
    let before := Dockerfile.parse [] ("FROM a\nCOPY . .\nEXPOSE 80" ++ ['\n', '\n'])
    let after := Dockerfile.parse [] ("FROM a\nCOPY . .\nEXPOSE 80" ++ ['\n', '\n'] ++ "EXPOSE 90")
    contextCopyWarning 2 ∈ bestPractices after true ∧
      exposedPortsFinding [("80" : Text), ("90" : Text)] (some 3) ∈ security after ∧
      baseImage after = baseImage before ∧
      ∃ earlier ∈ bestPractices before true, earlier.message = missingUserWarning.message := by
  intro before after
  have copy : before.firstContextCopy? =
      some { line := 2, keyword := "COPY", arguments := ". .", source := "COPY . ." } := by
    decide +kernel
  have port : before.exposedPorts = [("80" : Text)] ∧ before.firstLine? "EXPOSE" = some 3 := by
    decide +kernel
  have ports : after.exposedPorts = [("80" : Text), ("90" : Text)] := by decide +kernel
  have known : before.baseImage ≠ [] := by decide +kernel
  have userless : after.has "USER" = false := by decide +kernel
  obtain ⟨presence, exposure, image, absence⟩ :=
    findings_parse_blankLine [] "FROM a\nCOPY . .\nEXPOSE 80" "EXPOSE 90" true
  have copied : PracticeFinding before true .contextCopy (contextCopyWarning 2) :=
    .contextCopy copy
  have exposed : SecurityFinding before .exposedPorts
      (exposedPortsFinding [("80" : Text)] (some 3)) := by
    rw [← port.1, ← port.2]
    exact .exposedPorts (by simp [port.1])
  have missing : PracticeFinding after true .user missingUserWarning := .user userless
  refine ⟨?_, ?_, image known, ?_⟩
  · exact (presence .contextCopy _ rfl copied.isAbout).1 (mem_bestPractices_iff.mpr ⟨_, copied⟩)
  · have later := (exposure _ (mem_security_iff.mpr ⟨_, exposed⟩) exposed.isAbout).2.2
    rwa [ports] at later
  · exact (absence .user _ rfl missing.isAbout).1 (mem_bestPractices_iff.mpr ⟨_, missing⟩)

end Check

end DockerfileLint
