import DockerfileLint.Proofs.Check.Findings

namespace DockerfileLint

def OfKind (kind : IssueKind) (issues : List Issue) : Prop := ∀ issue ∈ issues, issue.kind = kind

namespace Check

/-- A note comes first, and all that follows are warnings. -/
theorem baseImage_eq_cons (dockerfile : Dockerfile) :
    ∃ note warnings, baseImage dockerfile = note :: warnings ∧ note.kind = .info ∧
      OfKind .warning warnings := by
  refine ⟨_, _, rfl, rfl, List.forall_mem_map.mpr (List.forall_mem_append.mpr ⟨?_, ?_⟩)⟩
  · split
    · exact List.forall_mem_singleton.mpr rfl
    · exact List.forall_mem_nil _
  · split
    · exact List.forall_mem_singleton.mpr rfl
    · exact List.forall_mem_nil _

theorem ofKind_bestPractices (dockerfile : Dockerfile) (hasIgnoreFile : Bool) :
    OfKind .warning (bestPractices dockerfile hasIgnoreFile) := by
  intro issue member
  obtain ⟨topic, reported⟩ := mem_bestPractices_iff.mp member
  cases reported <;> rfl

theorem ofKind_layers (dockerfile : Dockerfile) (image : Text) (history : LayerHistory)
    (limits : LayerLimits) : OfKind .warning (layers dockerfile image history limits) := by
  intro issue member
  cases layerFinding_of_mem_layers member <;> rfl

theorem ofKind_security (dockerfile : Dockerfile) : OfKind .security (security dockerfile) := by
  intro issue member
  obtain ⟨topic, reported⟩ := mem_security_iff.mp member
  cases reported <;> rfl

end Check

end DockerfileLint
