import DockerfileLint.Linter
import DockerfileLint.Proofs.Check.Kinds
import Mathlib.Data.List.Basic
import Mathlib.Data.List.Pairwise

/-! A run of the linter as the findings of its groups one after the other.  What a group finds does
not depend on the switches, so a switch decides about one block of the findings and nothing else. -/

namespace DockerfileLint

/-- Info comes before warnings, and warnings before security. -/
def IssueKind.place : IssueKind → Nat
  | .info => 0
  | .warning => 1
  | .security => 2

theorem OfKind.pairwise_place {kind : IssueKind} {issues : List Issue} (same : OfKind kind issues) :
    issues.Pairwise (·.kind.place ≤ ·.kind.place) := by
  apply List.pairwise_of_forall_mem_list
  intro issue member other present
  have kinds := (same issue member).trans (same other present).symm
  exact Nat.le_of_eq (congrArg IssueKind.place kinds)

inductive CheckGroup where
  | baseImage
  | bestPractices
  | layerSizes
  | security
deriving Repr, DecidableEq

namespace CheckGroup

/-- The groups in the order in which they run. -/
def all : List CheckGroup := [.baseImage, .bestPractices, .layerSizes, .security]

def kinds : CheckGroup → List IssueKind
  | .baseImage => [.info, .warning]
  | .bestPractices => [.warning]
  | .layerSizes => [.warning]
  | .security => [.security]

/-- The groups before and behind a group are others. -/
theorem all_eq_append (group : CheckGroup) :
    ∃ before after, all = before ++ group :: after ∧ group ∉ before ∧ group ∉ after := by
  cases group with
  | baseImage => exact ⟨[], _, rfl, by decide, by decide⟩
  | bestPractices => exact ⟨[.baseImage], _, rfl, by decide, by decide⟩
  | layerSizes => exact ⟨[.baseImage, .bestPractices], _, rfl, by decide, by decide⟩
  | security => exact ⟨[.baseImage, .bestPractices, .layerSizes], _, rfl, by decide, by decide⟩

theorem mem_all (group : CheckGroup) : group ∈ all := by
  cases group <;> decide

theorem info_mem_kinds_iff {group : CheckGroup} : .info ∈ group.kinds ↔ group = .baseImage := by
  cases group <;> decide

theorem security_mem_kinds_iff {group : CheckGroup} :
    .security ∈ group.kinds ↔ group = .security := by
  cases group <;> decide

/-- No group has a kind that comes before those of an earlier group. -/
theorem pairwise_kinds :
    all.Pairwise fun first second =>
      ∀ kind ∈ first.kinds, ∀ later ∈ second.kinds, kind.place ≤ later.place := by
  decide

end CheckGroup

namespace CheckSettings

variable {group other : CheckGroup}

def isEnabled (checks : CheckSettings) : CheckGroup → Bool
  | .baseImage => checks.baseImage
  | .bestPractices => checks.bestPractices
  | .layerSizes => checks.layerSizes
  | .security => checks.security

def without (checks : CheckSettings) : CheckGroup → CheckSettings
  | .baseImage => { checks with baseImage := false }
  | .bestPractices => { checks with bestPractices := false }
  | .layerSizes => { checks with layerSizes := false }
  | .security => { checks with security := false }

theorem isEnabled_without_self (checks : CheckSettings) (group : CheckGroup) :
    (checks.without group).isEnabled group = false := by
  cases group <;> rfl

theorem isEnabled_without_of_ne (checks : CheckSettings) (differ : other ≠ group) :
    (checks.without group).isEnabled other = checks.isEnabled other := by
  cases group <;> cases other <;> first | rfl | exact absurd rfl differ

end CheckSettings

namespace Linter

def without (linter : Linter) (group : CheckGroup) : Linter :=
  { linter with
    settings := { linter.settings with checks := linter.settings.checks.without group } }

def findings (linter : Linter) (files : FileAccess) (dockerfile : Dockerfile) :
    CheckGroup → List Issue
  | .baseImage => Check.baseImage dockerfile
  | .bestPractices => Check.bestPractices dockerfile (linter.hasIgnoreFile files)
  | .layerSizes =>
    Check.layers dockerfile (linter.inspectedImage dockerfile) linter.history
      linter.settings.layers.limits
  | .security => Check.security dockerfile

def reported (linter : Linter) (files : FileAccess) (dockerfile : Dockerfile)
    (group : CheckGroup) : List Issue :=
  if linter.settings.checks.isEnabled group then linter.findings files dockerfile group else []

variable {linter : Linter} {files : FileAccess} {dockerfile : Dockerfile}
variable {group other : CheckGroup} {issue : Issue}

theorem run_eq_flatMap (linter : Linter) (files : FileAccess) (dockerfile : Dockerfile) :
    linter.run files dockerfile = CheckGroup.all.flatMap (linter.reported files dockerfile) := by
  simp only [CheckGroup.all, List.flatMap_cons, List.flatMap_nil, List.append_nil,
    ← List.append_assoc]
  rfl

theorem mem_findings_of_mem_reported (member : issue ∈ linter.reported files dockerfile group) :
    issue ∈ linter.findings files dockerfile group := by
  rw [reported] at member
  split at member
  · exact member
  · cases member

theorem exists_mem_findings_of_mem_run (member : issue ∈ linter.run files dockerfile) :
    ∃ group, issue ∈ linter.findings files dockerfile group := by
  rw [run_eq_flatMap] at member
  obtain ⟨group, _, present⟩ := List.mem_flatMap.mp member
  exact ⟨group, mem_findings_of_mem_reported present⟩

theorem mem_run_of_mem_findings (enabled : linter.settings.checks.isEnabled group = true)
    (member : issue ∈ linter.findings files dockerfile group) :
    issue ∈ linter.run files dockerfile := by
  rw [run_eq_flatMap]
  refine List.mem_flatMap.mpr ⟨group, group.mem_all, ?_⟩
  rwa [reported, if_pos enabled]

theorem run_eq_nil_iff :
    linter.run files dockerfile = [] ↔ ∀ group,
      linter.settings.checks.isEnabled group = true →
        linter.findings files dockerfile group = [] := by
  rw [run_eq_flatMap, List.flatMap_eq_nil_iff]
  constructor
  · intro nothing group enabled
    rw [← nothing group group.mem_all, reported, if_pos enabled]
  · intro nothing group _
    rw [reported]
    split
    · exact nothing group ‹_›
    · rfl

theorem reported_without_self (linter : Linter) (files : FileAccess) (dockerfile : Dockerfile)
    (group : CheckGroup) : (linter.without group).reported files dockerfile group = [] := by
  rw [reported]
  exact if_neg (by rw [without, CheckSettings.isEnabled_without_self]; decide)

theorem reported_without_of_ne (linter : Linter) (files : FileAccess) (dockerfile : Dockerfile)
    (differ : other ≠ group) :
    (linter.without group).reported files dockerfile other =
      linter.reported files dockerfile other := by
  have switch := linter.settings.checks.isEnabled_without_of_ne differ
  have same : (linter.without group).findings files dockerfile other =
      linter.findings files dockerfile other := by
    cases other <;> rfl
  rw [reported, reported, same, without, switch]

theorem run_without (linter : Linter) (files : FileAccess) (dockerfile : Dockerfile)
    (group : CheckGroup) :
    ∃ front back,
      linter.run files dockerfile = front ++ linter.reported files dockerfile group ++ back ∧
        (linter.without group).run files dockerfile = front ++ back := by
  obtain ⟨before, after, order, early, late⟩ := group.all_eq_append
  have others {groups : List CheckGroup} (absent : group ∉ groups) :
      groups.flatMap ((linter.without group).reported files dockerfile) =
        groups.flatMap (linter.reported files dockerfile) := by
    apply List.flatMap_congr
    intro other member
    exact linter.reported_without_of_ne files dockerfile fun same => absent (same ▸ member)
  refine ⟨before.flatMap (linter.reported files dockerfile),
    after.flatMap (linter.reported files dockerfile), ?_, ?_⟩
  · rw [run_eq_flatMap, order, List.flatMap_append, List.flatMap_cons, List.append_assoc]
  · rw [run_eq_flatMap, order, List.flatMap_append, List.flatMap_cons, reported_without_self,
      others early, others late, List.nil_append]

theorem kind_of_mem_findings (member : issue ∈ linter.findings files dockerfile group) :
    issue.kind ∈ group.kinds := by
  cases group with
  | baseImage =>
    obtain ⟨note, warnings, whole, info, warning⟩ := Check.baseImage_eq_cons dockerfile
    rw [findings, whole] at member
    rcases List.mem_cons.mp member with rfl | later
    · rw [info]
      decide
    · rw [warning issue later]
      decide
  | bestPractices => exact List.mem_singleton.mpr (Check.ofKind_bestPractices _ _ issue member)
  | layerSizes => exact List.mem_singleton.mpr (Check.ofKind_layers _ _ _ _ issue member)
  | security => exact List.mem_singleton.mpr (Check.ofKind_security _ issue member)

theorem kind_of_mem_reported (member : issue ∈ linter.reported files dockerfile group) :
    issue.kind ∈ group.kinds :=
  kind_of_mem_findings (mem_findings_of_mem_reported member)

theorem pairwise_place_findings (linter : Linter) (files : FileAccess) (dockerfile : Dockerfile)
    (group : CheckGroup) :
    (linter.findings files dockerfile group).Pairwise (·.kind.place ≤ ·.kind.place) := by
  cases group with
  | baseImage =>
    obtain ⟨note, warnings, whole, info, warning⟩ := Check.baseImage_eq_cons dockerfile
    rw [findings, whole, List.pairwise_cons, info]
    exact ⟨fun later _ => Nat.zero_le later.kind.place, warning.pairwise_place⟩
  | bestPractices => exact (Check.ofKind_bestPractices _ _).pairwise_place
  | layerSizes => exact (Check.ofKind_layers _ _ _ _).pairwise_place
  | security => exact (Check.ofKind_security _).pairwise_place

theorem pairwise_place_run (linter : Linter) (files : FileAccess) (dockerfile : Dockerfile) :
    (linter.run files dockerfile).Pairwise (·.kind.place ≤ ·.kind.place) := by
  rw [run_eq_flatMap, List.pairwise_flatMap]
  constructor
  · intro group _
    rw [reported]
    split
    · exact linter.pairwise_place_findings files dockerfile group
    · exact .nil
  · apply CheckGroup.pairwise_kinds.imp
    intro first second ordered issue member later following
    exact ordered _ (kind_of_mem_reported member) _ (kind_of_mem_reported following)

theorem filter_security_reported (linter : Linter) (files : FileAccess) (dockerfile : Dockerfile)
    (group : CheckGroup) :
    (linter.reported files dockerfile group).filter (·.kind = .security) =
      if group = .security then linter.reported files dockerfile group else [] := by
  split
  · rename_i same
    subst same
    rw [List.filter_eq_self]
    intro issue member
    exact decide_eq_true (List.mem_singleton.mp (kind_of_mem_reported member))
  · rename_i differ
    rw [List.filter_eq_nil_iff]
    intro issue member same
    have kind := kind_of_mem_reported member
    rw [of_decide_eq_true same] at kind
    exact differ (CheckGroup.security_mem_kinds_iff.mp kind)

/-- The findings of kind `security` are those of the security checks, if these are enabled. -/
theorem filter_security_run (linter : Linter) (files : FileAccess) (dockerfile : Dockerfile) :
    (linter.run files dockerfile).filter (·.kind = .security) =
      if linter.settings.checks.security then Check.security dockerfile else [] := by
  rw [run_eq_flatMap, List.filter_flatMap]
  simp only [filter_security_reported, CheckGroup.all, List.flatMap_cons, List.flatMap_nil,
    reduceCtorEq, if_false, if_true, List.nil_append, List.append_nil]
  rfl

/-- The note on the base image comes first if its group is enabled, and there is no other. -/
theorem info_of_run (linter : Linter) (files : FileAccess) (dockerfile : Dockerfile) :
    if linter.settings.checks.baseImage = true then
      ∃ note rest, linter.run files dockerfile = note :: rest ∧ note.kind = .info ∧
        ∀ issue ∈ rest, issue.kind ≠ .info
    else ∀ issue ∈ linter.run files dockerfile, issue.kind ≠ .info := by
  have others : ∀ issue ∈ [CheckGroup.bestPractices, .layerSizes, .security].flatMap
      (linter.reported files dockerfile), issue.kind ≠ .info := by
    intro issue member same
    obtain ⟨group, listed, present⟩ := List.mem_flatMap.mp member
    have kind := kind_of_mem_reported present
    rw [same, CheckGroup.info_mem_kinds_iff] at kind
    subst kind
    simp at listed
  have whole : linter.run files dockerfile =
      linter.reported files dockerfile .baseImage ++
        [CheckGroup.bestPractices, .layerSizes, .security].flatMap
          (linter.reported files dockerfile) := by
    rw [run_eq_flatMap, CheckGroup.all, List.flatMap_cons]
  rw [whole]
  split
  · rename_i enabled
    obtain ⟨note, warnings, found, info, warning⟩ := Check.baseImage_eq_cons dockerfile
    have block : linter.reported files dockerfile .baseImage = note :: warnings := by
      rw [← found]
      exact if_pos enabled
    refine ⟨note, _, by rw [block, List.cons_append], info, ?_⟩
    refine List.forall_mem_append.mpr ⟨?_, others⟩
    intro issue member same
    have kind := warning issue member
    rw [same] at kind
    cases kind
  · rename_i disabled
    have block : linter.reported files dockerfile .baseImage = [] := if_neg disabled
    rw [block, List.nil_append]
    exact others

theorem run_withSecurity (linter : Linter) (files : FileAccess) (dockerfile : Dockerfile) :
    (linter.withSecurity true).run files dockerfile =
      (linter.withSecurity false).run files dockerfile ++ Check.security dockerfile := by
  simp only [run, withSecurity, if_true, Bool.false_eq_true, if_false, List.append_nil]
  rfl

/-- The structure of a run.  Info comes before warnings and these before security; the one note on
the base image comes first if its group is enabled; the security findings are those of the security
checks and come on top; and switching off any one group takes its block out and leaves the rest. -/
theorem run_structure (linter : Linter) (files : FileAccess) (dockerfile : Dockerfile) :
    let issues := linter.run files dockerfile
    let checks := linter.settings.checks
    issues.Pairwise (·.kind.place ≤ ·.kind.place) ∧
      (if checks.baseImage = true then
        ∃ note rest, issues = note :: rest ∧ note.kind = .info ∧ ∀ issue ∈ rest, issue.kind ≠ .info
      else ∀ issue ∈ issues, issue.kind ≠ .info) ∧
      issues.filter (·.kind = .security) =
        (if checks.security then Check.security dockerfile else []) ∧
      (linter.withSecurity true).run files dockerfile =
        (linter.withSecurity false).run files dockerfile ++ Check.security dockerfile ∧
      ∀ group, ∃ front back,
        issues = front ++ linter.reported files dockerfile group ++ back ∧
          (linter.without group).run files dockerfile = front ++ back :=
  ⟨linter.pairwise_place_run files dockerfile, linter.info_of_run files dockerfile,
    linter.filter_security_run files dockerfile, linter.run_withSecurity files dockerfile,
    linter.run_without files dockerfile⟩

end Linter

end DockerfileLint
