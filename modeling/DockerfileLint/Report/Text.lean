import DockerfileLint.Issue
import DockerfileLint.Report.Paint
import DockerfileLint.Text.Lines

namespace DockerfileLint.Report

def header (path : Text) : Text := "[INFO] Checking Dockerfile: " ++ path ++ "\n\n"

def marker : IssueKind → Text
  | .info => "[+]"
  | .warning => "[!]"
  | .security => "[SECURITY]"

def markerColor : IssueKind → Color
  | .info => .green
  | .warning => .yellow
  | .security => .red

def arrow (style : Style) : Text := style.apply .blue "→"

def headline (style : Style) (issue : Issue) : Text :=
  style.apply (markerColor issue.kind) (marker issue.kind) ++ " " ++ issue.message ++
    match issue.line with
    | some line => " (line " ++ Text.ofNat line ++ ")\n"
    | none => "\n"

def detail (style : Style) (name : Text) (content : Text) : Text :=
  "  " ++ arrow style ++ " " ++ name ++ ": " ++ content ++ "\n"

def fixLine (style : Style) (line : Text) : Text := "    " ++ style.apply .cyan line ++ "\n"

/-- A fix keeps its lines, each painted on its own. -/
def fixLines (style : Style) (fix : Text) : Text :=
  "  " ++ arrow style ++ " Fix:\n" ++ (Text.lines fix).flatMap (fixLine style)

def referenceLine (reference : Text) : Text := "    - " ++ reference ++ "\n"

/-- Without references there is not even their title. -/
def referenceLines (style : Style) (references : List Text) : Text :=
  if references.isEmpty then []
  else "  " ++ arrow style ++ " References:\n" ++ references.flatMap referenceLine

/-- The part of a block that a missing field leaves out. -/
def whenPresent (field : Option α) (render : α → Text) : Text :=
  match field with
  | some value => render value
  | none => []

def block (style : Style) (issue : Issue) : Text :=
  "\n" ++ headline style issue ++
    whenPresent issue.severity (fun severity => detail style "Severity" severity.name) ++
    whenPresent issue.impact (detail style "Impact") ++
    whenPresent issue.fix (fixLines style) ++
    referenceLines style issue.references

def closing (style : Style) (count : Nat) : Text :=
  "\n[" ++ style.apply .green "✓" ++ "] Check complete: " ++ Text.ofNat count ++ " issues found\n"

def render (style : Style) (issues : List Issue) : Text :=
  issues.flatMap (block style) ++ closing style issues.length

end DockerfileLint.Report
