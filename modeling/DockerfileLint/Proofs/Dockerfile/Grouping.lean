import DockerfileLint.Proofs.Dockerfile.Reading
import Mathlib.Data.List.SplitBy

/-! The instructions of a text without a reader: number the lines, leave out the comments, cut after
every line that ends a group, and read one instruction off each group.  Reading line by line finds
the same instructions. -/

namespace DockerfileLint.Dockerfile

/-- A line feed ends a line, and what follows the last one is a line only if it is not empty. -/
def physicalLines (content : Text) : List Text :=
  let pieces := content.splitOn '\n'
  if pieces.getLast? = some [] then pieces.dropLast else pieces

abbrev NumberedLine := Text × Nat

def isComment (line : NumberedLine) : Bool := (Text.trim line.1).head? == some '#'

/-- A line is the last of its group if it is blank or has no backslash at its end. -/
def endsGroup (line : NumberedLine) : Bool :=
  (Text.trim line.1).isEmpty || (Text.trim line.1).getLast? != some '\\'

/-- The trimmed line; a backslash at its end is dropped together with the blanks before it. -/
def fragmentOf (line : NumberedLine) : Text :=
  let trimmed := Text.trim line.1
  if trimmed.getLast? = some '\\' then Text.trimEnd trimmed.dropLast else trimmed

def fragmentsOf (group : List NumberedLine) : List Text :=
  (group.map fragmentOf).filter fun fragment => !fragment.isEmpty

/-- The lines that are no comments, cut after every line that ends a group. -/
def lineGroups (content : Text) : List (List NumberedLine) :=
  (((physicalLines content).zipIdx 1).filter fun line => !isComment line).splitBy
    fun line _ => !endsGroup line

/-- A group with a last line and some fragment is one instruction.  It ends on that line, and its
source is the fragments with a space in each gap. -/
def groupInstruction? (group : List NumberedLine) : Option Instruction := do
  let last ← group.find? endsGroup
  guard (fragmentsOf group ≠ [])
  let source := List.intercalate [' '] (fragmentsOf group)
  return {
    keyword := Text.uppercase (source.takeWhile fun c => !Text.isBlank c)
    arguments := Text.trim (source.dropWhile fun c => !Text.isBlank c)
    line := last.2
    source }

/-- Splitting at line feeds finds the lines, and behind a last line feed an empty piece more. -/
theorem splitOn_eq_physicalLines (content : Text) :
    content.splitOn '\n' = physicalLines content ++
      if content = [] ∨ content.getLast? = some '\n' then [[]] else [] := by
  rw [physicalLines]
  split
  · rename_i ended
    obtain ⟨lines, split⟩ := List.getLast?_eq_some_iff.mp ended
    have started : content = [] ∨ content.getLast? = some '\n' :=
      Text.eq_ofLines_of_splitOn split ▸ Text.atLineStart_ofLines lines
    rw [split, List.dropLast_concat, if_pos started]
  · rename_i unended
    have begun : ¬(content = [] ∨ content.getLast? = some '\n') := by
      intro started
      apply unended
      rcases Text.AtLineStart.cases started with rfl | ⟨kept, rfl⟩
      · rfl
      · simp [List.splitOn_append_cons_self]
    rw [if_neg begun, List.append_nil]

private theorem roles_linesOfPieces (pieces : List Text) :
    (Text.linesOfPieces pieces).map LineRole.ofLine =
      (if pieces.getLast? = some [] then pieces.dropLast else pieces).map LineRole.ofLine := by
  fun_induction Text.linesOfPieces pieces with
  | case1 => rfl
  | case2 last empty => simp_all
  | case3 last visible => simp_all
  | case4 line next rest ih =>
    rw [List.map_cons, ih, LineRole.ofLine_congr (Text.trim_dropReturn line),
      List.getLast?_cons_cons, List.dropLast_cons_cons]
    split
    · rfl
    · rfl

/-- Carriage returns at the ends of lines do not change what the lines are to the reader. -/
theorem rolesOf_eq_physicalLines (content : Text) :
    rolesOf content = (physicalLines content).map LineRole.ofLine :=
  roles_linesOfPieces _

variable {text : Text} {number : Nat} {group : List NumberedLine}

theorem fragmentsOf_concat (group : List NumberedLine) (line : NumberedLine) :
    fragmentsOf (group ++ [line]) = fragmentsOf group ++ fragmentsOf [line] := by
  simp [fragmentsOf]

theorem ofLine_of_isComment (comment : isComment (text, number) = true) :
    LineRole.ofLine text = .comment :=
  LineRole.ofLine_comment (by simpa [isComment] using comment)

theorem advance_of_inside (visible : isComment (text, number) = false)
    (inside : endsGroup (text, number) = false) (pending : List Text) :
    (LineRole.ofLine text).advance pending = pending ++ fragmentsOf [(text, number)] ∧
      (LineRole.ofLine text).completed number pending = [] := by
  have notComment : (Text.trim text).head? ≠ some '#' := by simpa [isComment] using visible
  obtain ⟨notBlank, backslash⟩ :
      Text.trim text ≠ [] ∧ (Text.trim text).getLast? = some '\\' := by
    simpa [endsGroup] using inside
  have role := LineRole.ofLine_visible notBlank notComment
  rw [if_pos backslash] at role
  refine ⟨?_, by rw [role]; rfl⟩
  by_cases lone : Text.trimEnd (Text.trim text).dropLast = []
  · simp [role, LineRole.advance, fragmentsOf, fragmentOf, backslash, lone]
  · simp [role, LineRole.advance, fragmentsOf, fragmentOf, backslash, lone]

theorem completed_of_last (visible : isComment (text, number) = false)
    (last : endsGroup (text, number) = true) (pending : List Text) :
    (LineRole.ofLine text).advance pending = [] ∧
      (LineRole.ofLine text).completed number pending =
        if pending ++ fragmentsOf [(text, number)] = [] then []
        else [joinFragments number (pending ++ fragmentsOf [(text, number)])] := by
  have notComment : (Text.trim text).head? ≠ some '#' := by simpa [isComment] using visible
  by_cases blank : Text.trim text = []
  · rw [LineRole.ofLine_blank blank]
    refine ⟨rfl, ?_⟩
    simp [LineRole.completed, fragmentsOf, fragmentOf, blank]
  · have noBackslash : (Text.trim text).getLast? ≠ some '\\' := by
      simpa [endsGroup, blank] using last
    rw [LineRole.ofLine_visible blank notComment, if_neg noBackslash]
    refine ⟨rfl, ?_⟩
    simp [LineRole.completed, fragmentsOf, fragmentOf, noBackslash, blank]

/-- Lines are cut apart only after one that ends a group. -/
private theorem isChain_of_inside : ∀ group : List NumberedLine,
    (∀ line ∈ group.dropLast, endsGroup line = false) →
      group.IsChain fun line _ => (!endsGroup line) = true
  | [], _ => .nil
  | [line], _ => .singleton line
  | line :: next :: rest, inside => by
    rw [List.dropLast_cons_cons] at inside
    obtain ⟨first, later⟩ := List.forall_mem_cons.mp inside
    exact .cons_cons (by rw [first]; rfl) (isChain_of_inside (next :: rest) later)

private theorem splitBy_group (rest : List NumberedLine) {last : NumberedLine}
    (inside : ∀ line ∈ group, endsGroup line = false) (ends : endsGroup last = true) :
    (group ++ last :: rest).splitBy (fun line _ => !endsGroup line) =
      (group ++ [last]) :: rest.splitBy fun line _ => !endsGroup line := by
  have chain := isChain_of_inside (group ++ [last])
    (by rw [List.dropLast_concat]; exact inside)
  have cut := List.splitBy_append (r := fun line _ => !endsGroup line) (l := group ++ [last])
    (m := rest) (by simp [ends])
  rw [List.append_assoc, List.singleton_append] at cut
  rw [cut, List.splitBy_of_isChain (by simp) chain]
  rfl

private theorem find?_inside (inside : ∀ line ∈ group, endsGroup line = false) :
    group.find? endsGroup = none := by
  rw [List.find?_eq_none]
  intro line member
  simp [inside line member]

private theorem groupInstruction?_inside (inside : ∀ line ∈ group, endsGroup line = false) :
    groupInstruction? group = none := by
  rw [groupInstruction?, find?_inside inside]
  rfl

private theorem groupInstruction?_concat (inside : ∀ line ∈ group, endsGroup line = false)
    (last : endsGroup (text, number) = true) :
    groupInstruction? (group ++ [(text, number)]) =
      if fragmentsOf group ++ fragmentsOf [(text, number)] = [] then none
      else some (joinFragments number (fragmentsOf group ++ fragmentsOf [(text, number)])) := by
  have found : (group ++ [(text, number)]).find? endsGroup = some (text, number) := by
    simp [List.find?_append, find?_inside inside, last]
  rw [groupInstruction?, found, fragmentsOf_concat]
  by_cases empty : fragmentsOf group ++ fragmentsOf [(text, number)] = []
  · rw [if_pos empty, empty]
    rfl
  · rw [if_neg empty, Option.bind_eq_bind, Option.bind_some, guard, if_pos empty]
    rfl

/-- The open fragments are those of the group that has been begun. -/
private theorem readRoles_eq_groups (group : List NumberedLine)
    (inside : ∀ line ∈ group, endsGroup line = false) (texts : List Text) (number : Nat) :
    readRoles number (fragmentsOf group) (texts.map LineRole.ofLine) =
      ((group ++ (texts.zipIdx number).filter fun line => !isComment line).splitBy
        fun line _ => !endsGroup line).filterMap groupInstruction? := by
  induction texts generalizing group number with
  | nil =>
    rw [List.zipIdx_nil, List.filter_nil, List.append_nil]
    by_cases begun : group = []
    · rw [begun]
      rfl
    · have chain := isChain_of_inside group fun line member => inside line (List.dropLast_subset _ member)
      rw [List.splitBy_of_isChain begun chain, List.filterMap_cons, groupInstruction?_inside inside]
      rfl
  | cons text rest ih =>
    rw [List.map_cons, readRoles, List.zipIdx_cons, List.filter_cons]
    by_cases comment : isComment (text, number) = true
    · rw [ofLine_of_isComment comment, if_neg (by simp [comment])]
      exact ih group inside (number + 1)
    · have visible : isComment (text, number) = false := by simpa using comment
      rw [if_pos (by simp [visible])]
      by_cases ends : endsGroup (text, number) = true
      · obtain ⟨closed, done⟩ := completed_of_last visible ends (fragmentsOf group)
        have next := ih [] (by simp) (number + 1)
        rw [List.nil_append] at next
        rw [splitBy_group _ inside ends, List.filterMap_cons, groupInstruction?_concat inside ends,
          ← next, closed, done]
        by_cases empty : fragmentsOf group ++ fragmentsOf [(text, number)] = []
        · simp only [empty, if_true, List.nil_append]
          rfl
        · simp only [empty, if_false]
          rfl
      · have continues : endsGroup (text, number) = false := by simpa using ends
        obtain ⟨grown, nothing⟩ := advance_of_inside visible continues (fragmentsOf group)
        have insideGrown : ∀ line ∈ group ++ [(text, number)], endsGroup line = false :=
          List.forall_mem_append.mpr ⟨inside, List.forall_mem_singleton.mpr continues⟩
        have next := ih (group ++ [(text, number)]) insideGrown (number + 1)
        rw [List.append_assoc, List.singleton_append] at next
        rw [grown, nothing, ← fragmentsOf_concat, List.nil_append, next]

/-- Reading line by line, with the open fragments in hand, finds one instruction for each group of
lines that has a last line and a fragment.  The lines are the pieces between line feeds, but for the
empty piece behind a line feed at the very end: no line begins there, so it does not end a group
either, and an instruction that is continued up to there is lost like one without the line feed. -/
theorem parse_instructions_eq_lineGroups (path content : Text) :
    content.splitOn '\n' = physicalLines content ++
        (if content = [] ∨ content.getLast? = some '\n' then [[]] else []) ∧
      (parse path content).instructions = (lineGroups content).filterMap groupInstruction? := by
  refine ⟨splitOn_eq_physicalLines content, ?_⟩
  rw [parse_instructions, instructionsOf_eq_readRoles, rolesOf_eq_physicalLines]
  exact readRoles_eq_groups [] (by simp) (physicalLines content) 1

example : (lineGroups "RUN a \\\n# note\n  b\n\nUSER c \\\n").map (·.map (·.2)) = [[1, 3], [4], [5]] := by
  decide

end DockerfileLint.Dockerfile
