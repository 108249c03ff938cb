import DockerfileLint.Text.Basic

namespace DockerfileLint

/-- The kind decides how a finding is marked in a report. -/
inductive IssueKind where
  | info
  | warning
  | security
deriving Repr, DecidableEq

def IssueKind.name : IssueKind → Text
  | .info => "info"
  | .warning => "warning"
  | .security => "security"

inductive Severity where
  | info
  | low
  | medium
  | high
deriving Repr, DecidableEq

namespace Severity

def name : Severity → Text
  | .info => "info"
  | .low => "low"
  | .medium => "medium"
  | .high => "high"

/-- Severities rise from `info` to `high`. -/
def rank : Severity → Nat
  | .info => 0
  | .low => 1
  | .medium => 2
  | .high => 3

instance : Ord Severity := ⟨fun left right => compare left.rank right.rank⟩

end Severity

/-- A finding.  Only kind and message are always there; `fix` may have several lines, and `line` is
where the instruction in question ends. -/
structure Issue where
  kind : IssueKind
  message : Text
  fix : Option Text := none
  severity : Option Severity := none
  impact : Option Text := none
  references : List Text := []
  line : Option Nat := none
deriving Repr, DecidableEq

namespace Issue

def withFix (issue : Issue) (fix : Text) : Issue := { issue with fix := some fix }

def withSeverity (issue : Issue) (severity : Severity) : Issue :=
  { issue with severity := some severity }

def withImpact (issue : Issue) (impact : Text) : Issue := { issue with impact := some impact }

def withReference (issue : Issue) (reference : Text) : Issue :=
  { issue with references := issue.references ++ [reference] }

def atLine (issue : Issue) (line : Option Nat) : Issue := { issue with line }

end Issue

end DockerfileLint
