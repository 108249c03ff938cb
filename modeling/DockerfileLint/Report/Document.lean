import DockerfileLint.Dockerfile.Basic
import DockerfileLint.Json
import DockerfileLint.Report.Summary

namespace DockerfileLint.Report

def member (key : Text) (value : Json) : Text × Json := (key, value)

/-- The member for a field that may be missing. -/
def member? (key : Text) (field : Option Json) : List (Text × Json) :=
  match field with
  | some value => [member key value]
  | none => []

/-- A list without elements counts as missing. -/
def references? : List Text → Option Json
  | [] => none
  | first :: rest => some (.array ((first :: rest).map .string))

def issueJson (issue : Issue) : Json :=
  .object
    ([member "kind" (.string issue.kind.name), member "message" (.string issue.message)] ++
      member? "fix" (issue.fix.map .string) ++
      member? "severity" (issue.severity.map fun severity => .string severity.name) ++
      member? "impact" (issue.impact.map .string) ++
      member? "references" (references? issue.references) ++
      member? "line" (issue.line.map .number))

def summaryJson (summary : Summary) : Json :=
  .object
    [member "total" (.number summary.total),
     member "info" (.number summary.info),
     member "warning" (.number summary.warning),
     member "security" (.number summary.security)]

def documentJson (path baseImage : Text) (issues : List Issue) : Json :=
  .object
    [member "path" (.string path),
     member "base_image" (.string baseImage),
     member "issues" (.array (issues.map issueJson)),
     member "summary" (summaryJson (Summary.ofIssues issues))]

def renderJson (dockerfile : Dockerfile) (issues : List Issue) : Text :=
  (documentJson dockerfile.path dockerfile.baseImage issues).render 0

end DockerfileLint.Report
