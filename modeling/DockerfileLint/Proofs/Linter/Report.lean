import DockerfileLint.Proofs.Linter.Groups
import DockerfileLint.Proofs.Report.Lines

namespace DockerfileLint.Linter

variable {linter : Linter} {files : FileAccess} {dockerfile : Dockerfile}
variable {group : CheckGroup} {issue : Issue}

theorem unbroken_of_mem_findings (word : '\n' ∉ dockerfile.baseImage)
    (member : issue ∈ linter.findings files dockerfile group) : Unbroken issue.phrases := by
  cases group with
  | baseImage =>
    obtain ⟨finding, reported, rfl⟩ := Check.mem_baseImage_iff.mp member
    have unlocated : Unbroken finding.phrases := reported.unbroken word
    exact unlocated
  | bestPractices =>
    obtain ⟨topic, reported⟩ := Check.mem_bestPractices_iff.mp member
    exact reported.unbroken
  | layerSizes => exact (Check.layerFinding_of_mem_layers member).unbroken
  | security =>
    obtain ⟨topic, reported⟩ := Check.mem_security_iff.mp member
    exact reported.unbroken

theorem unbroken_of_mem_run (word : '\n' ∉ dockerfile.baseImage)
    (member : issue ∈ linter.run files dockerfile) : Unbroken issue.phrases := by
  obtain ⟨group, present⟩ := exists_mem_findings_of_mem_run member
  exact unbroken_of_mem_findings word present

/-- The lines of the report that open with a bracket are one title for each finding and the verdict;
all others are empty or indented.  So no text can put a finding into a report, or hide one. -/
theorem titles_of_render_run (linter : Linter) (files : FileAccess) (path content : Text) :
    let issues := linter.run files (Dockerfile.parse path content)
    let printed := (Report.render .plain issues).splitOn '\n'
    printed.filter (·.head? = some '[') =
        issues.map Report.title ++ [Report.verdict issues.length] ∧
      ∀ line ∈ printed, line.head? = some '[' ∨ line = [] ∨ ("  " : Text) <+: line := by
  intro issues printed
  have word : '\n' ∉ (Dockerfile.parse path content).baseImage := by
    intro inside
    have visible := Dockerfile.visible_ofInstructions_baseImage path _ '\n' inside
    revert visible
    decide
  have lines : printed = Report.reportLines issues ++ [[]] :=
    Report.splitOn_render_plain fun issue member => unbroken_of_mem_run word member
  rw [lines]
  constructor
  · rw [List.filter_append, Report.filter_bracket_reportLines]
    exact List.append_nil _
  · intro line member
    rcases List.mem_append.mp member with inside | last
    · exact Report.of_mem_reportLines inside
    · exact .inr (.inl (List.mem_singleton.mp last))

end DockerfileLint.Linter
