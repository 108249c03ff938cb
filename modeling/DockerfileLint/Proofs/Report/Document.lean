import DockerfileLint.Proofs.Json.Rendering
import DockerfileLint.Report.Document
import Mathlib.Data.List.Nodup

/-! The report for programs, read back.  A reader looks fields up by their names and takes a field
that is absent for one that the finding lacks.  What it gets is what was reported, so the document
tells everything about a run. -/

namespace DockerfileLint

def IssueKind.all : List IssueKind := [.info, .warning, .security]

def Severity.all : List Severity := [.info, .low, .medium, .high]

def IssueKind.ofName? (name : Text) : Option IssueKind := all.find? (·.name = name)

def Severity.ofName? (name : Text) : Option Severity := all.find? (·.name = name)

theorem IssueKind.ofName?_name (kind : IssueKind) : ofName? kind.name = some kind := by
  cases kind <;> decide

theorem Severity.ofName?_name (severity : Severity) : ofName? severity.name = some severity := by
  cases severity <;> decide

/-- There is no `null` in a report. -/
theorem Json.toValue_ne_null (json : Json) : json.toValue ≠ .null := by
  cases json <;> simp [toValue]

namespace JsonValue

abbrev Members := List (Text × JsonValue)

def text? : JsonValue → Option Text
  | .string content => some content
  | _ => none

/-- A number without fraction, exponent and sign. -/
def natural? : JsonValue → Option Nat
  | .number { significand := .ofNat n, exponent := 0 } => some n
  | _ => none

def elements? : JsonValue → Option (List JsonValue)
  | .array elements => some elements
  | _ => none

def members? : JsonValue → Option Members
  | .object members => some members
  | _ => none

variable {α : Type}

def field? (read? : JsonValue → Option α) (members : Members) (key : Text) : Option α :=
  (members.lookup key).bind read?

/-- A field that may be missing; `null` is taken for the same. -/
def optionalField? (read? : JsonValue → Option α) (members : Members) (key : Text) :
    Option (Option α) :=
  match members.lookup key with
  | none => some none
  | some .null => some none
  | some value => (read? value).map some

variable {read? : JsonValue → Option α} {members : Members} {key : Text}

theorem field?_of_lookup (encode : α → Json)
    (back : ∀ content, read? (encode content).toValue = some content) {content : α}
    (found : members.lookup key = some (encode content).toValue) :
    field? read? members key = some content := by
  rw [field?, found, Option.bind_some, back]

theorem optionalField?_of_lookup (encode : α → Json)
    (back : ∀ content, read? (encode content).toValue = some content) {field : Option α}
    (found : members.lookup key = (field.map encode).map Json.toValue) :
    optionalField? read? members key = some field := by
  rw [optionalField?, found]
  cases field with
  | none => rfl
  | some content =>
    rw [Option.map_some, Option.map_some]
    split
    · rename_i absent
      cases absent
    · rename_i null
      exact absurd (Option.some.inj null) (encode content).toValue_ne_null
    · rename_i value _ same
      rw [← Option.some.inj same, back, Option.map_some]

end JsonValue

namespace Report

open JsonValue (Members text? natural? elements? members? field? optionalField?)

section Fields

variable {fields : List (Text × Option Json)} {key : Text} {field : Option Json}

def present (fields : List (Text × Option Json)) : List (Text × Json) :=
  fields.flatMap fun field => member? field.1 field.2

theorem lookup_member?_self (key : Text) (field : Option Json) :
    (member? key field).lookup key = field := by
  cases field <;> simp [member?, member]

theorem lookup_member?_of_ne {other : Text} (differ : key ≠ other) (field : Option Json) :
    (member? other field).lookup key = none := by
  have unequal : (key == other) = false := beq_false_of_ne differ
  cases field <;> simp [member?, member, List.lookup_cons, unequal]

theorem lookup_present_eq_none (absent : key ∉ fields.map (·.1)) :
    (present fields).lookup key = none := by
  induction fields with
  | nil => rfl
  | cons first rest ih =>
    rw [List.map_cons, List.mem_cons, not_or] at absent
    rw [present, List.flatMap_cons, List.lookup_append, lookup_member?_of_ne absent.1]
    exact ih absent.2

/-- Names that differ keep the fields apart. -/
theorem lookup_present (distinct : (fields.map (·.1)).Nodup) (given : (key, field) ∈ fields) :
    (present fields).lookup key = field := by
  induction fields with
  | nil => cases given
  | cons first rest ih =>
    rw [List.map_cons, List.nodup_cons] at distinct
    rw [present, List.flatMap_cons, List.lookup_append]
    rcases List.mem_cons.mp given with rfl | later
    · have nowhere : (present rest).lookup key = none := lookup_present_eq_none distinct.1
      rw [lookup_member?_self]
      rw [present] at nowhere
      rw [nowhere, Option.or_none]
    · have differ : key ≠ first.1 := by
        rintro rfl
        exact distinct.1 (List.mem_map.mpr ⟨_, later, rfl⟩)
      rw [lookup_member?_of_ne differ, Option.none_or]
      exact ih distinct.2 later

theorem lookup_memberValues (members : List (Text × Json)) (key : Text) :
    (Json.memberValues members).lookup key = (members.lookup key).map Json.toValue := by
  induction members with
  | nil => rfl
  | cons first rest ih =>
    rw [Json.memberValues, List.lookup_cons, List.lookup_cons, ih]
    cases key == first.1 <;> rfl

theorem lookup_fields (distinct : (fields.map (·.1)).Nodup) (given : (key, field) ∈ fields) :
    (Json.memberValues (present fields)).lookup key = field.map Json.toValue := by
  rw [lookup_memberValues, lookup_present distinct given]

end Fields

section Findings

def kind? (value : JsonValue) : Option IssueKind := (text? value).bind IssueKind.ofName?

def severity? (value : JsonValue) : Option Severity := (text? value).bind Severity.ofName?

def texts? (value : JsonValue) : Option (List Text) :=
  (elements? value).bind fun elements => elements.mapM text?

def issue? (value : JsonValue) : Option Issue := do
  let members ← members? value
  let kind ← field? kind? members "kind"
  let message ← field? text? members "message"
  let fix ← optionalField? text? members "fix"
  let severity ← optionalField? severity? members "severity"
  let impact ← optionalField? text? members "impact"
  let references ← optionalField? texts? members "references"
  let line ← optionalField? natural? members "line"
  pure { kind, message, fix, severity, impact, references := references.getD [], line }

def kindJson (kind : IssueKind) : Json := .string kind.name

def severityJson (severity : Severity) : Json := .string severity.name

def textsJson (texts : List Text) : Json := .array (texts.map .string)

theorem kind?_kindJson (kind : IssueKind) : kind? (kindJson kind).toValue = some kind :=
  kind.ofName?_name

theorem severity?_severityJson (severity : Severity) :
    severity? (severityJson severity).toValue = some severity :=
  severity.ofName?_name

theorem mapM_toValue {α : Type} {read? : JsonValue → Option α} {encode : α → Json}
    (back : ∀ item, read? (encode item).toValue = some item) (items : List α) :
    (Json.elementValues (items.map encode)).mapM read? = some items := by
  induction items with
  | nil => rfl
  | cons item rest ih =>
    rw [List.map_cons, Json.elementValues, List.mapM_cons, back, ih]
    rfl

theorem texts?_textsJson (texts : List Text) : texts? (textsJson texts).toValue = some texts :=
  mapM_toValue (fun _ => rfl) texts

def issueFields (issue : Issue) : List (Text × Option Json) :=
  [("kind", some (kindJson issue.kind)),
   ("message", some (.string issue.message)),
   ("fix", issue.fix.map .string),
   ("severity", issue.severity.map severityJson),
   ("impact", issue.impact.map .string),
   ("references", references? issue.references),
   ("line", issue.line.map .number)]

theorem issueJson_eq_present (issue : Issue) :
    issueJson issue = .object (present (issueFields issue)) := by
  simp only [issueJson, present, issueFields, List.flatMap_cons, List.flatMap_nil, List.append_nil,
    List.append_assoc]
  rfl

theorem nodup_issueFields (issue : Issue) : ((issueFields issue).map (·.1)).Nodup := by
  rw [issueFields]
  simp only [List.map_cons, List.map_nil]
  decide

theorem references?_eq_map (references : List Text) :
    references? references = (references.head?.map fun _ => references).map textsJson := by
  cases references <;> rfl

theorem issue?_issueJson (issue : Issue) : issue? (issueJson issue).toValue = some issue := by
  have shape : members? (issueJson issue).toValue =
      some (Json.memberValues (present (issueFields issue))) := by
    rw [issueJson_eq_present]
    rfl
  have found {key : Text} {field : Option Json} (given : (key, field) ∈ issueFields issue) :=
    lookup_fields (nodup_issueFields issue) given
  generalize Json.memberValues (present (issueFields issue)) = members at shape found
  have kind : field? kind? members "kind" = some issue.kind :=
    JsonValue.field?_of_lookup kindJson kind?_kindJson (found (.head _))
  have message : field? text? members "message" = some issue.message :=
    JsonValue.field?_of_lookup .string (fun _ => rfl) (found (.tail _ (.head _)))
  have fix : optionalField? text? members "fix" = some issue.fix :=
    JsonValue.optionalField?_of_lookup .string (fun _ => rfl) (found (.tail _ (.tail _ (.head _))))
  have severity : optionalField? severity? members "severity" = some issue.severity :=
    JsonValue.optionalField?_of_lookup severityJson severity?_severityJson
      (found (.tail _ (.tail _ (.tail _ (.head _)))))
  have impact : optionalField? text? members "impact" = some issue.impact :=
    JsonValue.optionalField?_of_lookup .string (fun _ => rfl)
      (found (.tail _ (.tail _ (.tail _ (.tail _ (.head _))))))
  have references : optionalField? texts? members "references" =
      some (issue.references.head?.map fun _ => issue.references) := by
    apply JsonValue.optionalField?_of_lookup textsJson texts?_textsJson
    rw [← references?_eq_map]
    exact found (.tail _ (.tail _ (.tail _ (.tail _ (.tail _ (.head _))))))
  have line : optionalField? natural? members "line" = some issue.line :=
    JsonValue.optionalField?_of_lookup .number (fun _ => rfl)
      (found (.tail _ (.tail _ (.tail _ (.tail _ (.tail _ (.tail _ (.head _))))))))
  have listed : (issue.references.head?.map fun _ => issue.references).getD [] =
      issue.references := by
    cases issue.references <;> rfl
  simp only [issue?, shape, kind, message, fix, severity, impact, references, line,
    Option.bind_eq_bind, Option.bind_some, listed]
  rfl

end Findings

section Documents

/-- What a document tells of a run. -/
structure Document where
  path : Text
  baseImage : Text
  issues : List Issue
  summary : Summary
deriving Repr, DecidableEq

def summary? (value : JsonValue) : Option Summary := do
  let members ← members? value
  let total ← field? natural? members "total"
  let info ← field? natural? members "info"
  let warning ← field? natural? members "warning"
  let security ← field? natural? members "security"
  pure { total, info, warning, security }

def issues? (value : JsonValue) : Option (List Issue) :=
  (elements? value).bind fun elements => elements.mapM issue?

def Document.ofJson? (value : JsonValue) : Option Document := do
  let members ← members? value
  let path ← field? text? members "path"
  let baseImage ← field? text? members "base_image"
  let issues ← field? issues? members "issues"
  let summary ← field? summary? members "summary"
  pure { path, baseImage, issues, summary }

def Document.read? (text : Text) : Option Document := (JsonValue.read? text).bind ofJson?

def summaryFields (summary : Summary) : List (Text × Option Json) :=
  [("total", some (.number summary.total)),
   ("info", some (.number summary.info)),
   ("warning", some (.number summary.warning)),
   ("security", some (.number summary.security))]

theorem summary?_summaryJson (summary : Summary) :
    summary? (summaryJson summary).toValue = some summary := by
  have shape : members? (summaryJson summary).toValue =
      some (Json.memberValues (present (summaryFields summary))) := rfl
  have distinct : ((summaryFields summary).map (·.1)).Nodup := by
    rw [summaryFields]
    simp only [List.map_cons, List.map_nil]
    decide
  have found {key : Text} {field : Option Json} (given : (key, field) ∈ summaryFields summary) :=
    lookup_fields distinct given
  generalize Json.memberValues (present (summaryFields summary)) = members at shape found
  have number {key : Text} {n : Nat} (given : (key, some (.number n)) ∈ summaryFields summary) :
      field? natural? members key = some n := by
    have looked : members.lookup key = some (Json.number n).toValue := found given
    exact JsonValue.field?_of_lookup .number (fun _ => rfl) looked
  have total : field? natural? members "total" = some summary.total := number (.head _)
  have info : field? natural? members "info" = some summary.info := number (.tail _ (.head _))
  have warning : field? natural? members "warning" = some summary.warning :=
    number (.tail _ (.tail _ (.head _)))
  have security : field? natural? members "security" = some summary.security :=
    number (.tail _ (.tail _ (.tail _ (.head _))))
  simp only [summary?, shape, total, info, warning, security, Option.bind_eq_bind, Option.bind_some]
  rfl

def issuesJson (issues : List Issue) : Json := .array (issues.map issueJson)

theorem issues?_issuesJson (issues : List Issue) :
    issues? (issuesJson issues).toValue = some issues :=
  mapM_toValue issue?_issueJson issues

def documentFields (path baseImage : Text) (issues : List Issue) : List (Text × Option Json) :=
  [("path", some (.string path)),
   ("base_image", some (.string baseImage)),
   ("issues", some (issuesJson issues)),
   ("summary", some (summaryJson (Summary.ofIssues issues)))]

theorem ofJson?_documentJson (path baseImage : Text) (issues : List Issue) :
    Document.ofJson? (documentJson path baseImage issues).toValue =
      some { path, baseImage, issues, summary := Summary.ofIssues issues } := by
  have shape : members? (documentJson path baseImage issues).toValue =
      some (Json.memberValues (present (documentFields path baseImage issues))) := rfl
  have distinct : ((documentFields path baseImage issues).map (·.1)).Nodup := by
    rw [documentFields]
    simp only [List.map_cons, List.map_nil]
    decide
  have found {key : Text} {field : Option Json}
      (given : (key, field) ∈ documentFields path baseImage issues) :=
    lookup_fields distinct given
  generalize Json.memberValues (present (documentFields path baseImage issues)) = members
    at shape found
  have paths : field? text? members "path" = some path :=
    JsonValue.field?_of_lookup .string (fun _ => rfl) (found (.head _))
  have images : field? text? members "base_image" = some baseImage :=
    JsonValue.field?_of_lookup .string (fun _ => rfl) (found (.tail _ (.head _)))
  have findings : field? issues? members "issues" = some issues :=
    JsonValue.field?_of_lookup issuesJson issues?_issuesJson (found (.tail _ (.tail _ (.head _))))
  have counts : field? summary? members "summary" = some (Summary.ofIssues issues) :=
    JsonValue.field?_of_lookup summaryJson summary?_summaryJson
      (found (.tail _ (.tail _ (.tail _ (.head _)))))
  simp only [Document.ofJson?, shape, paths, images, findings, counts, Option.bind_eq_bind,
    Option.bind_some]
  rfl

theorem read?_renderJson (dockerfile : Dockerfile) (issues : List Issue) :
    Document.read? (renderJson dockerfile issues) =
      some {
        path := dockerfile.path
        baseImage := dockerfile.baseImage
        issues
        summary := Summary.ofIssues issues } := by
  rw [Document.read?, renderJson, Json.read?_render, Option.bind_some, ofJson?_documentJson]

theorem total_ofIssues (issues : List Issue) :
    (Summary.ofIssues issues).total = (Summary.ofIssues issues).info +
      (Summary.ofIssues issues).warning + (Summary.ofIssues issues).security := by
  simp only [Summary.ofIssues]
  induction issues with
  | nil => rfl
  | cons issue rest ih =>
    cases kind : issue.kind <;> simp [kind, ih] <;> omega

/-- The document loses nothing.  It is JSON, and what it holds is the path, the base image, the
findings in order with every field they have and none besides, and their number by kind; so reports
that are alike come from findings that are alike. -/
theorem renderJson_lossless (dockerfile : Dockerfile) (issues : List Issue) :
    let summary := Summary.ofIssues issues
    Document.read? (renderJson dockerfile issues) =
        some { path := dockerfile.path, baseImage := dockerfile.baseImage, issues, summary } ∧
      summary.total = issues.length ∧
      summary.total = summary.info + summary.warning + summary.security ∧
      ∀ (other : Dockerfile) (others : List Issue),
        renderJson dockerfile issues = renderJson other others ↔
          dockerfile.path = other.path ∧ dockerfile.baseImage = other.baseImage ∧
            issues = others := by
  refine ⟨read?_renderJson dockerfile issues, rfl, total_ofIssues issues, ?_⟩
  intro other others
  constructor
  · intro same
    have read := read?_renderJson dockerfile issues
    rw [same, read?_renderJson other others] at read
    injection Option.some.inj read with path baseImage findings
    exact ⟨path.symm, baseImage.symm, findings.symm⟩
  · rintro ⟨path, baseImage, rfl⟩
    rw [renderJson, renderJson, path, baseImage]

end Documents

end Report

end DockerfileLint
