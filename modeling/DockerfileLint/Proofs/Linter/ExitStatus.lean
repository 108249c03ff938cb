import DockerfileLint.Proofs.Check.Clean
import DockerfileLint.Proofs.Dockerfile.Wellformed
import DockerfileLint.Proofs.Linter.Groups
import DockerfileLint.Report.Summary

namespace DockerfileLint

theorem ExitStatus.ofIssues_eq_clean_iff {issues : List Issue} :
    ExitStatus.ofIssues issues = .clean ↔ issues = [] := by
  cases issues with
  | nil => exact iff_of_true rfl rfl
  | cons issue rest => exact iff_of_false (by rintro ⟨⟩) (List.cons_ne_nil issue rest)

namespace Linter

/-- The exit status of a run, from what the text says: it is clean if and only if the base image
goes unreported, best practice is followed, no layer is blamed and the security checks are met, as
far as these groups are enabled. -/
theorem ofIssues_run_parse_eq_clean_iff (linter : Linter) (files : FileAccess)
    (path content : Text) :
    let dockerfile := Dockerfile.parse path content
    let checks := linter.settings.checks
    ExitStatus.ofIssues (linter.run files dockerfile) = .clean ↔
      checks.baseImage = false ∧
        (checks.bestPractices = true → dockerfile.FollowsPractices) ∧
        (checks.layerSizes = true →
          Check.layers dockerfile (linter.inspectedImage dockerfile) linter.history
            linter.settings.layers.limits = []) ∧
        (checks.security = true → dockerfile.IsSecured) := by
  intro dockerfile checks
  have trimmed : ∀ instruction ∈ dockerfile.instructions,
      Text.trim instruction.arguments = instruction.arguments :=
    fun _ member => Dockerfile.trim_arguments_of_mem_parse member
  rw [ExitStatus.ofIssues_eq_clean_iff, run_eq_nil_iff]
  constructor
  · intro nothing
    refine ⟨?_, ?_, ?_, ?_⟩
    · rw [← Bool.not_eq_true]
      intro enabled
      exact Check.baseImage_ne_nil dockerfile (nothing .baseImage enabled)
    · intro enabled
      exact (Check.bestPractices_eq_nil_iff _).mp (nothing .bestPractices enabled)
    · intro enabled
      exact nothing .layerSizes enabled
    · intro enabled
      exact (Check.security_eq_nil_iff trimmed).mp (nothing .security enabled)
  · rintro ⟨unreported, practices, layers, secured⟩ group enabled
    cases group with
    | baseImage =>
      rw [show checks.baseImage = true from enabled] at unreported
      cases unreported
    | bestPractices => exact (Check.bestPractices_eq_nil_iff _).mpr (practices enabled)
    | layerSizes => exact layers enabled
    | security => exact (Check.security_eq_nil_iff trimmed).mpr (secured enabled)

-- All but the note and the layers: a Dockerfile that every other check lets pass.
example (files : FileAccess) :
    let checks : CheckSettings := { baseImage := false, layerSizes := false, security := true }
    let linter : Linter := { settings := { checks }, context := [], history := .unavailable }
    ExitStatus.ofIssues (linter.run files (Dockerfile.parse []
      "FROM a:1\nCOPY --chown=b c d\nUSER b\nHEALTHCHECK e\n")) = .clean := by
  rfl

end Linter

end DockerfileLint
