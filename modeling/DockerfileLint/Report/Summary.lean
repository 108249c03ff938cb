import DockerfileLint.Issue

namespace DockerfileLint

structure Summary where
  total : Nat
  info : Nat
  warning : Nat
  security : Nat
deriving Repr, DecidableEq

def Summary.ofIssues (issues : List Issue) : Summary :=
  let count (kind : IssueKind) := issues.countP fun issue => issue.kind = kind
  { total := issues.length
    info := count .info
    warning := count .warning
    security := count .security }

/-- How a run ended.  Every finding counts, a note on the base image too. -/
inductive ExitStatus where
  | clean
  | failed
  | issuesFound
deriving Repr, DecidableEq

namespace ExitStatus

def ofIssues (issues : List Issue) : ExitStatus :=
  if issues.isEmpty then .clean else .issuesFound

def code : ExitStatus → Nat
  | .clean => 0
  | .failed => 1
  | .issuesFound => 2

end ExitStatus

end DockerfileLint
