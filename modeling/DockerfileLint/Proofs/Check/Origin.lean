import DockerfileLint.Proofs.Check.Findings
import DockerfileLint.Proofs.Dockerfile.Position

/-! Values and the lines reported with them.  A base image or a list of ports passes over
instructions without arguments, but the line with it is that of the first instruction of all.  So
value and line belong together only if that instruction has arguments. -/

namespace DockerfileLint

namespace Dockerfile

variable {dockerfile : Dockerfile} {keyword path content : Text} {gives : Instruction → Prop}

/-- The line is that of an instruction with the keyword that gives the value. -/
def HasOrigin (dockerfile : Dockerfile) (keyword : Text) (gives : Instruction → Prop)
    (line : Option Nat) : Prop :=
  ∃ instruction ∈ dockerfile.instructions,
    instruction.is keyword = true ∧ gives instruction ∧ line = some instruction.line

def StartsFilled (dockerfile : Dockerfile) (keyword : Text) : Prop :=
  ∃ first, dockerfile.IsFirst (·.is keyword = true) first ∧ first.tokens ≠ []

theorem startsFilled_iff :
    dockerfile.StartsFilled keyword ↔
      (dockerfile.first? keyword).any (·.tokens ≠ []) = true := by
  rw [StartsFilled, Option.any_eq_true]
  simp only [first?_eq_some_iff, decide_eq_true_eq]

instance (dockerfile : Dockerfile) (keyword : Text) : Decidable (dockerfile.StartsFilled keyword) :=
  decidable_of_iff _ startsFilled_iff.symm

/-- No other instruction has the line of the first one, so only that can give the value. -/
theorem Ordered.hasOrigin_firstLine?_iff (ordered : dockerfile.Ordered) :
    dockerfile.HasOrigin keyword gives (dockerfile.firstLine? keyword) ↔
      ∃ first, dockerfile.IsFirst (·.is keyword = true) first ∧ gives first := by
  constructor
  · rintro ⟨instruction, present, _, given, located⟩
    obtain ⟨first, leads, same⟩ := firstLine?_eq_some_iff.mp located
    obtain rfl := ordered.eq_of_line_eq present leads.mem same
    exact ⟨first, leads, given⟩
  · rintro ⟨first, leads, given⟩
    exact ⟨first, leads.mem, leads.holds, given, firstLine?_eq_some_iff.mpr ⟨first, leads, rfl⟩⟩

theorem exists_isFirst_head?_iff (known : (parse path content).baseImage ≠ []) :
    (∃ first, (parse path content).IsFirst (·.is "FROM" = true) first ∧
        first.tokens.head? = some (parse path content).baseImage) ↔
      (parse path content).StartsFilled "FROM" := by
  constructor
  · rintro ⟨first, leads, given⟩
    exact ⟨first, leads, List.ne_nil_of_mem (List.mem_of_mem_head? given)⟩
  · rintro ⟨first, leads, filled⟩
    obtain ⟨stage, names, given⟩ := exists_isFirst_of_baseImage known
    obtain rfl := names.unique (leads.of_imp (fun _ both => both.1) ⟨leads.holds, filled⟩)
    exact ⟨stage, leads, given⟩

theorem exists_isFirst_exposes_iff :
    (∃ first, dockerfile.IsFirst (·.is "EXPOSE" = true) first ∧
        ∃ port ∈ first.tokens, port ∈ dockerfile.exposedPorts) ↔
      dockerfile.StartsFilled "EXPOSE" := by
  refine exists_congr fun first => and_congr_right fun leads => ?_
  constructor
  · rintro ⟨port, declared, _⟩
    exact List.ne_nil_of_mem declared
  · intro filled
    obtain ⟨port, declared⟩ := List.exists_mem_of_ne_nil _ filled
    refine ⟨port, declared, List.mem_flatMap.mpr ⟨first, ?_, declared⟩⟩
    exact List.mem_filter.mpr ⟨leads.mem, leads.holds⟩

end Dockerfile

namespace Check

open Dockerfile (parse)

variable {path content : Text} {issue : Issue}

theorem hasOrigin_of_mem_baseImage_iff (known : (parse path content).baseImage ≠ [])
    (member : issue ∈ baseImage (parse path content)) :
    (parse path content).HasOrigin "FROM"
        (fun stage => stage.tokens.head? = some (parse path content).baseImage) issue.line ↔
      (parse path content).StartsFilled "FROM" := by
  have ordered := Dockerfile.ordered_parse path content
  obtain ⟨finding, _, rfl⟩ := mem_baseImage_iff.mp member
  exact ordered.hasOrigin_firstLine?_iff.trans (Dockerfile.exists_isFirst_head?_iff known)

theorem hasOrigin_of_exposedPorts_iff (member : issue ∈ security (parse path content))
    (about : issue.IsAbout .exposedPorts) :
    (parse path content).HasOrigin "EXPOSE"
        (fun expose => ∃ port ∈ expose.tokens, port ∈ (parse path content).exposedPorts)
        issue.line ↔
      (parse path content).StartsFilled "EXPOSE" := by
  have ordered := Dockerfile.ordered_parse path content
  cases SecurityFinding.of_mem member about with
  | exposedPorts exposed =>
    exact ordered.hasOrigin_firstLine?_iff.trans Dockerfile.exists_isFirst_exposes_iff

/-- The line with a base image is that of a `FROM` that begins with this image exactly if the first
`FROM` has arguments, and the line with a list of ports is that of an `EXPOSE` of any of them
exactly if the first `EXPOSE` has. -/
theorem hasOrigin_iff (path content : Text) :
    let dockerfile := parse path content
    (dockerfile.baseImage ≠ [] → ∀ issue ∈ baseImage dockerfile,
      (dockerfile.HasOrigin "FROM" (fun stage => stage.tokens.head? = some dockerfile.baseImage)
          issue.line ↔
        dockerfile.StartsFilled "FROM")) ∧
      ∀ issue ∈ security dockerfile, issue.IsAbout .exposedPorts →
        issue = exposedPortsFinding dockerfile.exposedPorts issue.line ∧
          (dockerfile.HasOrigin "EXPOSE"
              (fun expose => ∃ port ∈ expose.tokens, port ∈ dockerfile.exposedPorts) issue.line ↔
            dockerfile.StartsFilled "EXPOSE") := by
  intro dockerfile
  refine ⟨fun known _ member => hasOrigin_of_mem_baseImage_iff known member, ?_⟩
  intro issue member about
  refine ⟨?_, hasOrigin_of_exposedPorts_iff member about⟩
  cases SecurityFinding.of_mem member about with
  | exposedPorts exposed => rfl

/-- The `FROM` that names the image is not the first one, but the ports are those of the first
`EXPOSE`. -/
theorem hasOrigin_iff_unnamed :
    let dockerfile := parse [] "FROM\nFROM a:1\nEXPOSE 80\nEXPOSE\n"
    let note := (baseImageNote "a:1").atLine (some 1)
    let finding := exposedPortsFinding ["80"] (some 3)
    (dockerfile.baseImage ≠ [] ∧ note ∈ baseImage dockerfile ∧
      ¬dockerfile.HasOrigin "FROM"
        (fun stage => stage.tokens.head? = some dockerfile.baseImage) note.line) ∧
      finding ∈ security dockerfile ∧ finding.IsAbout .exposedPorts ∧
      dockerfile.HasOrigin "EXPOSE"
        (fun expose => ∃ port ∈ expose.tokens, port ∈ dockerfile.exposedPorts) finding.line := by
  intro dockerfile note finding
  have image : dockerfile.baseImage = "a:1" := by decide +kernel
  have instructions : dockerfile.instructions =
      [{ keyword := "FROM", arguments := [], line := 1, source := "FROM" },
        { keyword := "FROM", arguments := "a:1", line := 2, source := "FROM a:1" },
        { keyword := "EXPOSE", arguments := "80", line := 3, source := "EXPOSE 80" },
        { keyword := "EXPOSE", arguments := [], line := 4, source := "EXPOSE" }] := by
    decide +kernel
  have known : dockerfile.baseImage ≠ [] := by
    rw [image]
    decide
  have noted : note ∈ baseImage dockerfile := by
    rw [mem_baseImage_iff, image, Dockerfile.firstLine?, Dockerfile.first?, instructions]
    exact ⟨_, .note, rfl⟩
  have ports : dockerfile.exposedPorts = ["80"] := by
    rw [Dockerfile.exposedPorts, Dockerfile.withKeyword, instructions]
    decide
  have reported : SecurityFinding dockerfile .exposedPorts finding := by
    have exposed : dockerfile.exposedPorts ≠ [] := by
      rw [ports]
      decide
    have found := SecurityFinding.exposedPorts exposed
    rwa [ports, Dockerfile.firstLine?, Dockerfile.first?, instructions] at found
  have found : finding ∈ security dockerfile := mem_security_iff.mpr ⟨_, reported⟩
  obtain ⟨origin, exposed⟩ := hasOrigin_iff [] "FROM\nFROM a:1\nEXPOSE 80\nEXPOSE\n"
  refine ⟨⟨known, noted, ?_⟩, found, reported.isAbout, ?_⟩
  · rw [origin known note noted, Dockerfile.startsFilled_iff, Dockerfile.first?, instructions]
    decide
  · rw [(exposed finding found reported.isAbout).2, Dockerfile.startsFilled_iff, Dockerfile.first?,
      instructions]
    decide

/-- Neither line has anything to do with what it is reported with. -/
theorem not_hasOrigin_of_bare_first :
    let dockerfile := parse [] "FROM\nFROM alpine:3.19\nEXPOSE\nEXPOSE 80\n"
    ¬(dockerfile.baseImage ≠ [] → ∀ issue ∈ baseImage dockerfile,
      dockerfile.HasOrigin "FROM"
        (fun stage => stage.tokens.head? = some dockerfile.baseImage) issue.line) ∧
      ¬∀ issue ∈ security dockerfile, issue.IsAbout .exposedPorts →
        dockerfile.HasOrigin "EXPOSE"
          (fun expose => ∃ port ∈ expose.tokens, port ∈ dockerfile.exposedPorts) issue.line := by
  intro dockerfile
  have image : dockerfile.baseImage = "alpine:3.19" := by decide +kernel
  have instructions : dockerfile.instructions =
      [{ keyword := "FROM", arguments := [], line := 1, source := "FROM" },
        { keyword := "FROM", arguments := "alpine:3.19", line := 2, source := "FROM alpine:3.19" },
        { keyword := "EXPOSE", arguments := [], line := 3, source := "EXPOSE" },
        { keyword := "EXPOSE", arguments := "80", line := 4, source := "EXPOSE 80" }] := by
    decide +kernel
  have known : dockerfile.baseImage ≠ [] := by
    rw [image]
    decide
  have bare : ¬dockerfile.StartsFilled "FROM" ∧ ¬dockerfile.StartsFilled "EXPOSE" := by
    simp only [Dockerfile.startsFilled_iff, Dockerfile.first?, instructions]
    decide
  constructor
  · intro claimed
    have noted : (baseImageNote dockerfile.baseImage).atLine (dockerfile.firstLine? "FROM") ∈
        baseImage dockerfile := mem_baseImage_iff.mpr ⟨_, .note, rfl⟩
    exact bare.1 ((hasOrigin_of_mem_baseImage_iff known noted).mp (claimed known _ noted))
  · intro claimed
    have exposed : dockerfile.exposedPorts ≠ [] := by
      rw [Dockerfile.exposedPorts, Dockerfile.withKeyword, instructions]
      decide
    have reported := SecurityFinding.exposedPorts exposed
    have found := mem_security_iff.mpr ⟨_, reported⟩
    exact bare.2 ((hasOrigin_of_exposedPorts_iff found reported.isAbout).mp
      (claimed _ found reported.isAbout))

end Check

end DockerfileLint
