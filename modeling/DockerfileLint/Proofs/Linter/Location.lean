import DockerfileLint.Proofs.Check.Location
import DockerfileLint.Proofs.Linter.Groups

namespace DockerfileLint.Linter

open Check (PointsAt)

variable {linter : Linter} {files : FileAccess} {dockerfile : Dockerfile}
variable {group : CheckGroup} {issue : Issue} {topic : Topic} {line : Nat}

theorem exists_pointsAt_of_mem_findings
    (trimmed : ∀ instruction ∈ dockerfile.instructions,
      Text.trim instruction.arguments = instruction.arguments)
    (member : issue ∈ linter.findings files dockerfile group) (located : issue.line = some line) :
    ∃ instruction ∈ dockerfile.instructions,
      instruction.line = line ∧ PointsAt dockerfile instruction issue := by
  cases group with
  | baseImage => exact Check.exists_pointsAt_of_mem_baseImage member located
  | bestPractices => exact Check.exists_pointsAt_of_mem_bestPractices member located
  | layerSizes =>
    rw [Check.line_eq_none_of_mem_layers member] at located
    cases located
  | security => exact Check.exists_pointsAt_of_mem_security trimmed member located

theorem line_eq_none_of_mem_findings (placeless : topic.isPlaceless = true)
    (about : issue.IsAbout topic) (member : issue ∈ linter.findings files dockerfile group) :
    issue.line = none := by
  cases group with
  | baseImage => exact absurd about (Check.not_isAbout_of_mem_baseImage member placeless)
  | bestPractices => exact (Check.PracticeFinding.of_mem member about).line_eq_none placeless
  | layerSizes => exact Check.line_eq_none_of_mem_layers member
  | security => exact (Check.SecurityFinding.of_mem member about).line_eq_none placeless

/-- Every line in the findings of a run is the line of exactly one instruction, and that instruction
is what the finding is about.  Findings on layers, and on what is missing, have no line. -/
theorem pointsAt_of_mem_run (linter : Linter) (files : FileAccess) (path content : Text) :
    let dockerfile := Dockerfile.parse path content
    let issues := linter.run files dockerfile
    (∀ issue ∈ issues, ∀ line, issue.line = some line →
      ∃ instruction, dockerfile.instructions.filter (·.line = line) = [instruction] ∧
        PointsAt dockerfile instruction issue) ∧
      (∀ issue ∈ issues, issue ∈ linter.findings files dockerfile .layerSizes →
        issue.line = none) ∧
      ∀ issue ∈ issues, ∀ topic, topic.isPlaceless = true → issue.IsAbout topic →
        issue.line = none := by
  intro dockerfile issues
  have ordered : dockerfile.Ordered := Dockerfile.ordered_parse path content
  refine ⟨?_, fun issue _ layer => Check.line_eq_none_of_mem_layers layer, ?_⟩
  · intro issue member line located
    obtain ⟨group, found⟩ := exists_mem_findings_of_mem_run member
    obtain ⟨instruction, present, rfl, pointed⟩ := exists_pointsAt_of_mem_findings
      (fun _ inside => Dockerfile.trim_arguments_of_mem_parse inside) found located
    exact ⟨instruction, ordered.filter_line present, pointed⟩
  · intro issue member topic placeless about
    obtain ⟨group, found⟩ := exists_mem_findings_of_mem_run member
    exact line_eq_none_of_mem_findings placeless about found

/-- An installation that ends on the third line, and no `USER`. -/
theorem pointsAt_of_mem_run_installation :
    let linter := Linter.ofSettings .empty {} "."
    let files : FileAccess := { isPresent := fun _ => false, read := fun _ => .error .missing }
    let dockerfile := Dockerfile.parse [] "FROM a:1\nRUN apk add b \\\n  c\n"
    let issues := linter.run files dockerfile
    (Check.packageCacheWarning .apk 3 ∈ issues ∧
      ∃ instruction, dockerfile.instructions.filter (·.line = 3) = [instruction] ∧
        PointsAt dockerfile instruction (Check.packageCacheWarning .apk 3)) ∧
      Check.missingUserWarning ∈ issues ∧ Check.missingUserWarning.line = none := by
  intro linter files dockerfile issues
  have instructions : dockerfile.instructions =
      [{ keyword := "FROM", arguments := "a:1", line := 1, source := "FROM a:1" },
        { keyword := "RUN", arguments := "apk add b c", line := 3,
          source := "RUN apk add b c" }] := by
    decide +kernel
  have installed : Check.PracticeFinding dockerfile false .packageCache
      (Check.packageCacheWarning .apk 3) := by
    refine .packageCache (instructions ▸ List.mem_cons_of_mem _ List.mem_cons_self) ?_ ?_ ?_
    · decide
    · exact List.mem_cons_of_mem _ (List.mem_cons_of_mem _ List.mem_cons_self)
    · decide +kernel
  have userless : Check.PracticeFinding dockerfile false .user Check.missingUserWarning :=
    .user (by decide +kernel)
  have among {topic : Topic} {issue : Issue}
      (found : Check.PracticeFinding dockerfile false topic issue) : issue ∈ issues := by
    have enabled : linter.settings.checks.isEnabled .bestPractices = true := rfl
    exact mem_run_of_mem_findings enabled (Check.mem_bestPractices_iff.mpr ⟨topic, found⟩)
  obtain ⟨located, _, placeless⟩ := pointsAt_of_mem_run linter files [] _
  exact ⟨⟨among installed, located _ (among installed) 3 rfl⟩, among userless,
    placeless _ (among userless) .user rfl userless.isAbout⟩

end DockerfileLint.Linter
