import DockerfileLint.Proofs.Check.Unbroken
import DockerfileLint.Report.Text

/-! A plain report line by line.  A block is a blank line, a title that opens with a mark in
brackets, and details that are all indented, the lines of a fix among them.  So titles cannot be mistaken, as
long as no phrase of a finding goes on to a second line. -/

namespace DockerfileLint.Report

def lineNote (issue : Issue) : Text :=
  match issue.line with
  | some line => " (line " ++ Nat.toDigits 10 line ++ ")"
  | none => []

/-- The first line of a block after the blank one. -/
def title (issue : Issue) : Text :=
  let mark : Text := match issue.kind with
    | .info => "[+]"
    | .warning => "[!]"
    | .security => "[SECURITY]"
  mark ++ " " ++ issue.message ++ lineNote issue

def verdict (count : Nat) : Text :=
  "[✓] Check complete: " ++ Nat.toDigits 10 count ++ " issues found"

/-- A line with the arrow that stands before all details. -/
def pointed (content : Text) : Text := "  " ++ arrow .plain ++ " " ++ content

def fixBlock (fix : Text) : List Text := pointed "Fix:" :: (Text.lines fix).map ("    " ++ ·)

def referenceBlock (references : List Text) : List Text :=
  if references.isEmpty then []
  else pointed "References:" :: references.map ("    - " ++ ·)

/-- The lines of a block behind its title. -/
def details (issue : Issue) : List Text :=
  (issue.severity.map fun severity => pointed ("Severity: " ++ severity.name)).toList ++
    (issue.impact.map fun impact => pointed ("Impact: " ++ impact)).toList ++
    (issue.fix.map fixBlock).getD [] ++
    referenceBlock issue.references

def blockLines (issue : Issue) : List Text := [] :: title issue :: details issue

def reportLines (issues : List Issue) : List Text :=
  issues.flatMap blockLines ++ [[], verdict issues.length]

variable {issue : Issue} {issues : List Issue} {line : Text}

theorem ofLines_map (before : Text) (lines : List Text) :
    Text.ofLines (lines.map (before ++ ·)) =
      lines.flatMap fun line => before ++ line ++ ['\n'] := by
  simp only [Text.ofLines, List.flatMap_map]

theorem ofLines_blank_cons (front middle back : Text) :
    '\n' :: front ++ middle ++ (back ++ ['\n']) = Text.ofLines [[], front ++ middle ++ back] := by
  simp [Text.ofLines]

theorem title_eq (issue : Issue) :
    title issue = marker issue.kind ++ " " ++ issue.message ++ lineNote issue := by
  rw [title]
  cases issue.kind <;> rfl

theorem headline_plain (issue : Issue) : headline .plain issue = title issue ++ ['\n'] := by
  rw [headline, title_eq, lineNote]
  cases issue.line with
  | none =>
    rw [List.append_nil]
    rfl
  | some line =>
    have ended : (")\n" : Text) = ")" ++ ['\n'] := by decide
    simp only [ended, ← List.append_assoc]
    rfl

theorem detail_plain (name content : Text) :
    detail .plain name content = Text.ofLines [pointed (name ++ ": " ++ content)] := by
  rw [Text.ofLines_singleton]
  unfold detail pointed
  generalize (": " : Text) = colon
  simp only [List.append_assoc]
  rfl

theorem fixLines_plain (fix : Text) : fixLines .plain fix = Text.ofLines (fixBlock fix) := by
  have line : fixLine .plain = fun line => "    " ++ line ++ ['\n'] := rfl
  rw [fixBlock, Text.ofLines_cons, ofLines_map, fixLines, line, pointed]
  simp only [List.append_assoc]
  rfl

theorem referenceLines_plain (references : List Text) :
    referenceLines .plain references = Text.ofLines (referenceBlock references) := by
  have line : referenceLine = fun reference => "    - " ++ reference ++ ['\n'] := rfl
  rw [referenceLines, referenceBlock]
  split
  · rfl
  · rw [Text.ofLines_cons, ofLines_map, line, pointed]
    simp only [List.append_assoc]
    rfl

theorem block_plain (issue : Issue) : block .plain issue = Text.ofLines (blockLines issue) := by
  have severity :
      whenPresent issue.severity (fun severity => detail .plain "Severity" severity.name) =
        Text.ofLines
          (issue.severity.map fun severity => pointed ("Severity: " ++ severity.name)).toList := by
    cases issue.severity with
    | none => rfl
    | some severity => exact detail_plain "Severity" severity.name
  have impact : whenPresent issue.impact (detail .plain "Impact") =
      Text.ofLines (issue.impact.map fun impact => pointed ("Impact: " ++ impact)).toList := by
    cases issue.impact with
    | none => rfl
    | some impact => exact detail_plain "Impact" impact
  have fix : whenPresent issue.fix (fixLines .plain) =
      Text.ofLines ((issue.fix.map fixBlock).getD []) := by
    cases issue.fix with
    | none => rfl
    | some fix => exact fixLines_plain fix
  rw [block, severity, impact, fix, headline_plain, referenceLines_plain, blockLines, details,
    Text.ofLines_cons, Text.ofLines_cons, Text.ofLines_append, Text.ofLines_append,
    Text.ofLines_append]
  simp

theorem closing_plain (count : Nat) : closing .plain count = Text.ofLines [[], verdict count] := by
  have opened : ("\n[" : Text) ++ "✓" ++ "] Check complete: " = '\n' :: "[✓] Check complete: " := by
    decide
  have ended : (" issues found\n" : Text) = " issues found" ++ ['\n'] := by decide
  calc closing .plain count
      = ("\n[" : Text) ++ "✓" ++ "] Check complete: " ++ Text.ofNat count ++
          (" issues found\n" : Text) := rfl
    _ = '\n' :: "[✓] Check complete: " ++ Text.ofNat count ++ (" issues found" ++ ['\n']) :=
      congrArg₂ (· ++ Text.ofNat count ++ ·) opened ended
    _ = Text.ofLines [[], verdict count] := ofLines_blank_cons _ _ _

theorem render_plain (issues : List Issue) :
    render .plain issues = Text.ofLines (reportLines issues) := by
  rw [render, reportLines, Text.ofLines_append, closing_plain]
  congr 1
  induction issues with
  | nil => rfl
  | cons issue rest ih =>
    rw [List.flatMap_cons, List.flatMap_cons, Text.ofLines_append, block_plain, ih]

theorem mem_details_iff :
    line ∈ details issue ↔
      (∃ severity, issue.severity = some severity ∧
        line = pointed ("Severity: " ++ severity.name)) ∨
      (∃ impact, issue.impact = some impact ∧ line = pointed ("Impact: " ++ impact)) ∨
      (∃ fix, issue.fix = some fix ∧ line ∈ fixBlock fix) ∨
      line ∈ referenceBlock issue.references := by
  simp only [details, List.mem_append, Option.mem_toList, Option.map_eq_some_iff, or_assoc]
  cases issue.fix <;> simp [eq_comm]

theorem mem_fixBlock_iff {fix : Text} :
    line ∈ fixBlock fix ↔
      line = pointed "Fix:" ∨ ∃ part ∈ Text.lines fix, line = "    " ++ part := by
  simp only [fixBlock, List.mem_cons, List.mem_map, eq_comm]

theorem of_mem_referenceBlock {references : List Text} (member : line ∈ referenceBlock references) :
    line = pointed "References:" ∨ ∃ reference ∈ references, line = "    - " ++ reference := by
  rw [referenceBlock] at member
  split at member
  · cases member
  · simpa only [List.mem_cons, List.mem_map, eq_comm] using member

theorem indented_pointed (content : Text) : ("  " : Text) <+: pointed content :=
  ⟨arrow .plain ++ " " ++ content, by simp only [pointed, List.append_assoc]⟩

/-- Every detail is indented, whatever the texts of the finding are. -/
theorem indented_of_mem_details (member : line ∈ details issue) : ("  " : Text) <+: line := by
  rcases mem_details_iff.mp member with ⟨severity, _, rfl⟩ | ⟨impact, _, rfl⟩ | ⟨fix, _, inside⟩ |
    inside
  · exact indented_pointed _
  · exact indented_pointed _
  · rcases mem_fixBlock_iff.mp inside with rfl | ⟨part, _, rfl⟩
    · exact indented_pointed _
    · exact ⟨"  " ++ part, rfl⟩
  · rcases of_mem_referenceBlock inside with rfl | ⟨reference, _, rfl⟩
    · exact indented_pointed _
    · exact ⟨"  - " ++ reference, rfl⟩

theorem head?_of_indented (indented : ("  " : Text) <+: line) : line.head? = some ' ' := by
  obtain ⟨rest, rfl⟩ := indented
  rfl

theorem head?_title (issue : Issue) : (title issue).head? = some '[' := by
  rw [title_eq]
  cases issue.kind <;> rfl

section Unbroken

open Text (notMem_written notMem_ofNat)

theorem newline_notMem_pointed {content : Text} (unbroken : '\n' ∉ content) :
    '\n' ∉ pointed content :=
  List.not_mem_append (by decide) unbroken

theorem newline_notMem_lineNote (issue : Issue) : '\n' ∉ lineNote issue := by
  rw [lineNote]
  split
  · rename_i line _
    exact List.not_mem_append
      (List.not_mem_append (notMem_written (by decide)) (notMem_ofNat rfl line))
      (notMem_written (by decide))
  · exact List.not_mem_nil

theorem newline_notMem_title (unbroken : Unbroken issue.phrases) : '\n' ∉ title issue := by
  have mark : '\n' ∉ marker issue.kind ++ (" " : Text) := by
    cases issue.kind <;> decide
  have message : '\n' ∉ issue.message := unbroken _ (by simp [Issue.phrases])
  rw [title_eq]
  exact List.not_mem_append (List.not_mem_append mark message) (newline_notMem_lineNote issue)

theorem newline_notMem_verdict (count : Nat) : '\n' ∉ verdict count :=
  List.not_mem_append
    (List.not_mem_append (notMem_written (by decide)) (notMem_ofNat rfl count))
    (notMem_written (by decide))

/-- The lines of a fix are taken one by one, so the fix itself may hold anything. -/
theorem unbroken_details (unbroken : Unbroken issue.phrases) : Unbroken (details issue) := by
  intro line member
  rcases mem_details_iff.mp member with ⟨severity, _, rfl⟩ | ⟨impact, given, rfl⟩ |
    ⟨fix, _, inside⟩ | inside
  · have name : '\n' ∉ severity.name := by
      cases severity <;> decide
    exact newline_notMem_pointed (List.not_mem_append (notMem_written (by decide)) name)
  · have impact : '\n' ∉ impact := unbroken _ (by simp [Issue.phrases, given])
    exact newline_notMem_pointed (List.not_mem_append (notMem_written (by decide)) impact)
  · rcases mem_fixBlock_iff.mp inside with rfl | ⟨part, present, rfl⟩
    · exact newline_notMem_pointed (notMem_written (by decide))
    · exact List.not_mem_append (notMem_written (by decide))
        (Text.newline_notMem_of_mem_lines present)
  · rcases of_mem_referenceBlock inside with rfl | ⟨reference, present, rfl⟩
    · exact newline_notMem_pointed (notMem_written (by decide))
    · have reference : '\n' ∉ reference := unbroken _ (by simp [Issue.phrases, present])
      exact List.not_mem_append (notMem_written (by decide)) reference

theorem unbroken_reportLines (unbroken : ∀ issue ∈ issues, Unbroken issue.phrases) :
    Unbroken (reportLines issues) := by
  refine List.forall_mem_append.mpr ⟨?_, ?_⟩
  · intro line member
    obtain ⟨issue, present, inside⟩ := List.mem_flatMap.mp member
    have whole := unbroken issue present
    have lines : Unbroken (blockLines issue) :=
      .cons List.not_mem_nil (.cons (newline_notMem_title whole) (unbroken_details whole))
    exact lines line inside
  · exact Unbroken.cons List.not_mem_nil (.cons (newline_notMem_verdict issues.length) .nil)

end Unbroken

theorem filter_bracket_blockLines (issue : Issue) :
    (blockLines issue).filter (·.head? = some '[') = [title issue] := by
  have none : (details issue).filter (·.head? = some '[') = [] := by
    rw [List.filter_eq_nil_iff]
    intro line member
    rw [head?_of_indented (indented_of_mem_details member)]
    decide
  simp [blockLines, head?_title, none]

theorem filter_bracket_reportLines (issues : List Issue) :
    (reportLines issues).filter (·.head? = some '[') =
      issues.map title ++ [verdict issues.length] := by
  have last : [[], verdict issues.length].filter (·.head? = some '[') =
      [verdict issues.length] := rfl
  rw [reportLines, List.filter_append, last, List.filter_flatMap, List.map_eq_flatMap]
  simp only [filter_bracket_blockLines]

theorem of_mem_reportLines (member : line ∈ reportLines issues) :
    line.head? = some '[' ∨ line = [] ∨ ("  " : Text) <+: line := by
  rcases List.mem_append.mp member with inside | last
  · obtain ⟨issue, _, within⟩ := List.mem_flatMap.mp inside
    rcases List.mem_cons.mp within with rfl | later
    · exact .inr (.inl rfl)
    · rcases List.mem_cons.mp later with rfl | detail
      · exact .inl (head?_title issue)
      · exact .inr (.inr (indented_of_mem_details detail))
  · simp only [List.mem_cons, List.not_mem_nil, or_false] at last
    rcases last with rfl | rfl
    · exact .inr (.inl rfl)
    · exact .inl rfl

theorem splitOn_render_plain (unbroken : ∀ issue ∈ issues, Unbroken issue.phrases) :
    (render .plain issues).splitOn '\n' = reportLines issues ++ [[]] := by
  rw [render_plain, Text.splitOn_ofLines (unbroken_reportLines unbroken)]

end DockerfileLint.Report
