import DockerfileLint.Dockerfile.Parser
import DockerfileLint.Proofs.Text.Trimming
import DockerfileLint.Proofs.Text.Lines

/-! Reading a Dockerfile as a run over the roles of its lines.  A line hands on the fragments that
stay open and completes at most one instruction.  A run can therefore be cut anywhere, and it sees
of the open fragments only their joined text. -/

namespace DockerfileLint

def Instruction.moveLine (move : Nat → Nat) (instruction : Instruction) : Instruction :=
  { instruction with line := move instruction.line }

theorem Instruction.map_moveLine_moveLine (first second : Nat → Nat)
    (instructions : List Instruction) :
    (instructions.map (·.moveLine first)).map (·.moveLine second) =
      instructions.map (·.moveLine (second ∘ first)) := by
  rw [List.map_map]
  rfl

namespace LineRole

def advance (pending : List Text) : LineRole → List Text
  | .blank => []
  | .comment => pending
  | .continued fragment => if fragment = [] then pending else pending ++ [fragment]
  | .final _ => []

/-- The instructions that a line completes, at most one. -/
def completed (line : Nat) (pending : List Text) : LineRole → List Instruction
  | .blank => if pending = [] then [] else [Dockerfile.joinFragments line pending]
  | .comment => []
  | .continued _ => []
  | .final fragment => [Dockerfile.joinFragments line (pending ++ [fragment])]

variable {text left right : Text}

/-- A line is seen only through what trimming keeps of it. -/
theorem ofLine_congr (same : Text.trim left = Text.trim right) : ofLine left = ofLine right := by
  simp only [ofLine, same]

theorem ofLine_blank (blank : Text.trim text = []) : ofLine text = .blank := by
  simp [ofLine, blank]

theorem ofLine_comment (first : (Text.trim text).head? = some '#') : ofLine text = .comment := by
  have nonempty : Text.trim text ≠ [] := by
    intro blank
    simp [blank] at first
  simp only [ofLine, nonempty, first, if_false, if_true]

/-- A line that is neither blank nor a comment contributes its trimmed text, less a backslash. -/
theorem ofLine_visible (nonempty : Text.trim text ≠ [])
    (visible : (Text.trim text).head? ≠ some '#') :
    ofLine text = if (Text.trim text).getLast? = some '\\'
      then .continued (Text.trimEnd (Text.trim text).dropLast) else .final (Text.trim text) := by
  simp only [ofLine, nonempty, visible, if_false]

variable {line : Nat} {pending : List Text} {role : LineRole} {instruction : Instruction}

theorem line_of_mem_completed (member : instruction ∈ role.completed line pending) :
    instruction.line = line := by
  cases role with
  | blank =>
    by_cases empty : pending = []
    · simp [completed, empty] at member
    · simp only [completed, empty, if_false, List.mem_singleton] at member
      rw [member]
      rfl
  | comment => cases member
  | continued fragment => cases member
  | final fragment =>
    rw [List.mem_singleton.mp member]
    rfl

theorem completed_add (role : LineRole) (line shift : Nat) (pending : List Text) :
    role.completed (line + shift) pending =
      (role.completed line pending).map (·.moveLine (· + shift)) := by
  cases role with
  | blank =>
    by_cases empty : pending = []
    · simp [completed, empty]
    · simp only [completed, empty, if_false]
      rfl
  | comment => rfl
  | continued fragment => rfl
  | final fragment => rfl

end LineRole

namespace Dockerfile

def rolesOf (content : Text) : List LineRole := (Text.lines content).map LineRole.ofLine

/-- The instructions completed by lines with these roles, numbered from `line` on. -/
def readRoles (line : Nat) (pending : List Text) : List LineRole → List Instruction
  | [] => []
  | role :: rest => role.completed line pending ++ readRoles (line + 1) (role.advance pending) rest

def openAfter (pending : List Text) (roles : List LineRole) : List Text :=
  roles.foldl LineRole.advance pending

theorem scan_eq_readRoles (line : Nat) (pending : List Text) (texts : List Text) :
    scan line pending texts = readRoles line pending (texts.map LineRole.ofLine) := by
  induction texts generalizing line pending with
  | nil => rfl
  | cons text rest ih =>
    rw [scan, List.map_cons, readRoles]
    cases LineRole.ofLine text with
    | blank =>
      by_cases empty : pending = [] <;> simp [LineRole.completed, LineRole.advance, empty, ih]
    | comment => simp [LineRole.completed, LineRole.advance, ih]
    | continued fragment => simp [LineRole.completed, LineRole.advance, ih]
    | final fragment => simp [LineRole.completed, LineRole.advance, ih]

theorem instructionsOf_eq_readRoles (content : Text) :
    instructionsOf content = readRoles 1 [] (rolesOf content) :=
  scan_eq_readRoles 1 [] (Text.lines content)

@[simp] theorem parse_instructions (path content : Text) :
    (parse path content).instructions = instructionsOf content :=
  ofInstructions_instructions path _

section RolesOf
variable {text line before after : Text}

/-- The lines of a text that ends with a line have their roles whatever follows. -/
theorem rolesOf_append (started : Text.AtLineStart before) (text : Text) :
    rolesOf (before ++ text) = rolesOf before ++ rolesOf text := by
  rw [rolesOf, Text.lines_append started, List.map_append, rolesOf, rolesOf]

theorem length_rolesOf (started : Text.AtLineStart before) :
    (rolesOf before).length = before.count '\n' := by
  rw [rolesOf, List.length_map, Text.length_lines started]

theorem rolesOf_ended (unbroken : '\n' ∉ line) (text : Text) :
    rolesOf (line ++ '\n' :: text) = LineRole.ofLine line :: rolesOf text := by
  rw [rolesOf, Text.lines_ended unbroken, List.map_cons,
    LineRole.ofLine_congr (Text.trim_dropReturn line), rolesOf]

theorem rolesOf_ofLines {lines : List Text} (unbroken : ∀ line ∈ lines, '\n' ∉ line) :
    rolesOf (Text.ofLines lines) = lines.map LineRole.ofLine := by
  induction lines with
  | nil => rfl
  | cons line rest ih =>
    obtain ⟨first, later⟩ := List.forall_mem_cons.mp unbroken
    rw [Text.ofLines_cons, rolesOf_ended first, List.map_cons, ih later]

/-- The line that a text begins with, whether a line feed or the end of the text ends it. -/
theorem rolesOf_line (unbroken : '\n' ∉ line) (begun : line ≠ []) (ended : Text.AtLineEnd after) :
    rolesOf (line ++ after) = LineRole.ofLine line :: rolesOf after.tail := by
  rcases ended.cases with rfl | ⟨rest, rfl⟩
  · rw [List.append_nil, rolesOf, Text.lines_unended unbroken begun]
    rfl
  · exact rolesOf_ended unbroken rest

end RolesOf

variable {line : Nat} {pending : List Text} {roles : List LineRole} {instruction : Instruction}

theorem openAfter_append (pending : List Text) (first second : List LineRole) :
    openAfter pending (first ++ second) = openAfter (openAfter pending first) second :=
  List.foldl_append

theorem readRoles_append (line : Nat) (pending : List Text) (first second : List LineRole) :
    readRoles line pending (first ++ second) =
      readRoles line pending first ++
        readRoles (line + first.length) (openAfter pending first) second := by
  induction first generalizing line pending with
  | nil => rfl
  | cons role rest ih =>
    rw [List.cons_append, readRoles, readRoles, ih, List.append_assoc, List.length_cons,
      Nat.add_assoc, Nat.add_comm rest.length]
    rfl

theorem line_of_mem_readRoles (member : instruction ∈ readRoles line pending roles) :
    line ≤ instruction.line ∧ instruction.line < line + roles.length := by
  induction roles generalizing line pending with
  | nil => cases member
  | cons role rest ih =>
    rw [List.length_cons]
    rcases List.mem_append.mp member with here | later
    · have same := LineRole.line_of_mem_completed here
      omega
    · have bounds := ih later
      omega

theorem line_of_mem_instructionsOf {content : Text} (member : instruction ∈ instructionsOf content) :
    0 < instruction.line ∧ instruction.line ≤ (Text.lines content).length := by
  rw [instructionsOf_eq_readRoles] at member
  have bounds := line_of_mem_readRoles member
  rw [rolesOf, List.length_map] at bounds
  omega

theorem readRoles_add (line shift : Nat) (pending : List Text) (roles : List LineRole) :
    readRoles (line + shift) pending roles =
      (readRoles line pending roles).map (·.moveLine (· + shift)) := by
  induction roles generalizing line pending with
  | nil => rfl
  | cons role rest ih =>
    rw [readRoles, readRoles, List.map_append, LineRole.completed_add, ← ih,
      Nat.add_right_comm line shift 1]

/-- A text that ends with a line is read before what follows it, which only sees the open fragments
and the number of the lines. -/
theorem instructionsOf_append {before : Text} (started : Text.AtLineStart before) (text : Text) :
    instructionsOf (before ++ text) = instructionsOf before ++
      (readRoles 1 (openAfter [] (rolesOf before)) (rolesOf text)).map
        (·.moveLine (· + before.count '\n')) := by
  rw [instructionsOf_eq_readRoles, instructionsOf_eq_readRoles, rolesOf_append started,
    readRoles_append, readRoles_add, length_rolesOf started]

private theorem map_moveLine_behind {front back : List Instruction} {last : Nat}
    (upTo : ∀ instruction ∈ front, instruction.line ≤ last)
    (behind : ∀ instruction ∈ back, last < instruction.line) :
    (front ++ back).map (·.moveLine fun line => if last < line then line + 1 else line) =
      front ++ back.map (·.moveLine (· + 1)) := by
  have kept : front.map (·.moveLine fun line => if last < line then line + 1 else line) =
      front.map id := by
    apply List.map_congr_left
    intro instruction member
    rw [Instruction.moveLine, if_neg (Nat.not_lt.mpr (upTo instruction member)), id]
  have moved : back.map (·.moveLine fun line => if last < line then line + 1 else line) =
      back.map (·.moveLine (· + 1)) := by
    apply List.map_congr_left
    intro instruction member
    rw [Instruction.moveLine, if_pos (behind instruction member), Instruction.moveLine]
  rw [List.map_append, kept, moved, List.map_id]

/-- Where one more line behind a text only moves down what is completed from there on, the
instructions of the text itself stay where they are. -/
theorem instructionsOf_append_moved {before text longer : Text} (started : Text.AtLineStart before)
    (down : readRoles 1 (openAfter [] (rolesOf before)) (rolesOf longer) =
      (readRoles 1 (openAfter [] (rolesOf before)) (rolesOf text)).map (·.moveLine (· + 1))) :
    instructionsOf (before ++ longer) = (instructionsOf (before ++ text)).map
      (·.moveLine fun line => if before.count '\n' < line then line + 1 else line) := by
  let later := readRoles 1 (openAfter [] (rolesOf before)) (rolesOf text)
  have upTo : ∀ instruction ∈ instructionsOf before, instruction.line ≤ before.count '\n' := by
    intro instruction member
    rw [← Text.length_lines started]
    exact (line_of_mem_instructionsOf member).2
  have behind : ∀ instruction ∈ later.map (·.moveLine (· + before.count '\n')),
      before.count '\n' < instruction.line := by
    intro instruction member
    obtain ⟨original, present, rfl⟩ := List.mem_map.mp member
    have bounds := (line_of_mem_readRoles present).1
    exact Nat.lt_add_of_pos_left bounds
  have swap : (later.map (·.moveLine (· + 1))).map (·.moveLine (· + before.count '\n')) =
      (later.map (·.moveLine (· + before.count '\n'))).map (·.moveLine (· + 1)) := by
    have either : (· + before.count '\n') ∘ (· + 1) = (· + 1) ∘ (· + before.count '\n') :=
      funext fun line => Nat.add_right_comm line 1 _
    rw [Instruction.map_moveLine_moveLine, Instruction.map_moveLine_moveLine, either]
  rw [instructionsOf_append started, instructionsOf_append started, down, swap,
    map_moveLine_behind upTo behind]

end Dockerfile

end DockerfileLint
