import DockerfileLint.Proofs.Dockerfile.Reading

namespace DockerfileLint

theorem Text.joinWith_singleton (between piece : Text) : joinWith between [piece] = piece :=
  List.intercalate_singleton

theorem Text.joinWith_append (between : Text) {left right : List Text} (nonemptyLeft : left ≠ [])
    (nonemptyRight : right ≠ []) :
    joinWith between (left ++ right) = joinWith between left ++ between ++ joinWith between right := by
  induction left with
  | nil => exact absurd rfl nonemptyLeft
  | cons piece rest ih =>
    by_cases last : rest = []
    · subst last
      rw [List.singleton_append, joinWith_singleton, joinWith,
        List.intercalate_cons_of_ne_nil nonemptyRight, joinWith]
    · have more : rest ++ right ≠ [] := by simp [last]
      have joined := ih last
      simp only [joinWith] at joined ⊢
      rw [List.cons_append, List.intercalate_cons_of_ne_nil more, joined,
        List.intercalate_cons_of_ne_nil last]
      simp only [List.append_assoc]

/-- A text that a line can hold between its blanks, and that is not a comment. -/
structure IsSource (text : Text) : Prop where
  trimmed : Text.Trimmed text
  unbroken : '\n' ∉ text
  visible : text.head? ≠ some '#'

namespace IsSource

variable {text left right : Text}

theorem ne_nil (source : IsSource text) : text ≠ [] := source.trimmed.ne_nil

theorem join (first : IsSource left) (second : IsSource right) :
    IsSource (left ++ [' '] ++ right) := by
  refine ⟨⟨(first.trimmed.starts.append [' ']).append right, second.trimmed.ends.append _⟩, ?_, ?_⟩
  · simp [first.unbroken, second.unbroken]
  · obtain ⟨c, rest, rfl⟩ := List.exists_cons_of_ne_nil first.ne_nil
    exact first.visible

theorem joinWith {fragments : List Text} (nonempty : fragments ≠ [])
    (sources : ∀ fragment ∈ fragments, IsSource fragment) :
    IsSource (Text.joinWith [' '] fragments) := by
  induction fragments with
  | nil => exact absurd rfl nonempty
  | cons fragment rest ih =>
    obtain ⟨first, later⟩ := List.forall_mem_cons.mp sources
    by_cases last : rest = []
    · rw [last, Text.joinWith_singleton]
      exact first
    · have second := ih last later
      have joined := Text.joinWith_append [' '] (List.cons_ne_nil fragment []) last
      rw [List.singleton_append, Text.joinWith_singleton] at joined
      rw [joined]
      exact first.join second

/-- A non-empty front part of a source is one as soon as it does not end in a blank. -/
theorem of_isPrefix (source : IsSource text) (begins : left <+: text) (ends : Text.EndsVisibly left) :
    IsSource left := by
  obtain ⟨rest, rfl⟩ := begins
  obtain ⟨c, kept, rfl⟩ := List.exists_cons_of_ne_nil ends.ne_nil
  exact ⟨⟨source.trimmed.starts, ends⟩, fun inside => source.unbroken (List.mem_append_left rest inside),
    source.visible⟩

end IsSource

namespace LineRole

/-- The fragment of a line is empty or a source; only a continued line can have an empty one. -/
def Sound : LineRole → Prop
  | .blank => True
  | .comment => True
  | .continued fragment => fragment = [] ∨ IsSource fragment
  | .final fragment => IsSource fragment

variable {line : Text}

theorem sound_ofLine (unbroken : '\n' ∉ line) : (ofLine line).Sound := by
  by_cases blank : Text.trim line = []
  · rw [ofLine_blank blank]
    trivial
  · by_cases visible : (Text.trim line).head? = some '#'
    · rw [ofLine_comment visible]
      trivial
    · have source : IsSource (Text.trim line) :=
        ⟨Text.trimmed_trim blank, fun inside => unbroken ((Text.trim_infix line).subset inside), visible⟩
      rw [ofLine_visible blank visible]
      split
      · by_cases lone : Text.trimEnd (Text.trim line).dropLast = []
        · exact .inl lone
        · have begins := (Text.prefix_trimEnd (Text.trim line).dropLast).trans (List.dropLast_prefix _)
          exact .inr (source.of_isPrefix begins (Text.ends_trimEnd lone))
      · exact source

variable {role : LineRole} {number : Nat} {pending : List Text} {instruction : Instruction}

theorem Sound.advance (sound : role.Sound) (sources : ∀ fragment ∈ pending, IsSource fragment) :
    ∀ fragment ∈ role.advance pending, IsSource fragment := by
  cases role with
  | blank => simp [LineRole.advance]
  | comment => exact sources
  | continued fragment =>
    by_cases lone : fragment = []
    · simpa [LineRole.advance, lone] using sources
    · rw [LineRole.advance, if_neg lone, List.forall_mem_append, List.forall_mem_singleton]
      exact ⟨sources, sound.resolve_left lone⟩
  | final fragment => simp [LineRole.advance]

theorem Sound.completed (sound : role.Sound) (sources : ∀ fragment ∈ pending, IsSource fragment)
    (member : instruction ∈ role.completed number pending) :
    IsSource instruction.source ∧
      instruction = Instruction.ofSource instruction.line instruction.source := by
  cases role with
  | blank =>
    by_cases closed : pending = []
    · simp [LineRole.completed, closed] at member
    · simp only [LineRole.completed, closed, if_false, List.mem_singleton] at member
      subst member
      exact ⟨IsSource.joinWith closed sources, rfl⟩
  | comment => cases member
  | continued fragment => cases member
  | final fragment =>
    simp only [LineRole.completed, List.mem_singleton] at member
    subst member
    have all : ∀ other ∈ pending ++ [fragment], IsSource other :=
      List.forall_mem_append.mpr ⟨sources, List.forall_mem_singleton.mpr sound⟩
    exact ⟨IsSource.joinWith (by simp) all, rfl⟩

end LineRole

namespace Dockerfile

variable {line : Nat} {pending : List Text} {roles : List LineRole}
variable {instruction : Instruction} {content : Text}

/-- Sound lines complete instructions that are determined by their line and their source. -/
theorem source_of_mem_readRoles (sound : ∀ role ∈ roles, role.Sound)
    (sources : ∀ fragment ∈ pending, IsSource fragment)
    (member : instruction ∈ readRoles line pending roles) :
    IsSource instruction.source ∧
      instruction = Instruction.ofSource instruction.line instruction.source := by
  induction roles generalizing line pending with
  | nil => cases member
  | cons role rest ih =>
    obtain ⟨first, others⟩ := List.forall_mem_cons.mp sound
    rcases List.mem_append.mp member with here | later
    · exact first.completed sources here
    · exact ih others (first.advance sources) later

theorem sound_of_mem_rolesOf {role : LineRole} (member : role ∈ rolesOf content) : role.Sound := by
  obtain ⟨line, present, rfl⟩ := List.mem_map.mp member
  exact LineRole.sound_ofLine (Text.newline_notMem_of_mem_lines present)

theorem source_of_mem_instructionsOf (member : instruction ∈ instructionsOf content) :
    IsSource instruction.source ∧
      instruction = Instruction.ofSource instruction.line instruction.source := by
  rw [instructionsOf_eq_readRoles] at member
  exact source_of_mem_readRoles (fun role => sound_of_mem_rolesOf) (by simp) member

end Dockerfile

/-- Fragments that no later line can tell apart: they read the same when joined. -/
structure SameOpen (left right : List Text) : Prop where
  joined : Text.joinWith [' '] left = Text.joinWith [' '] right
  empty : left = [] ↔ right = []

namespace SameOpen

variable {left right left' right' : List Text}

theorem refl (fragments : List Text) : SameOpen fragments fragments := ⟨rfl, Iff.rfl⟩

theorem append (first : SameOpen left right) (second : SameOpen left' right') :
    SameOpen (left ++ left') (right ++ right') := by
  constructor
  · by_cases noFirst : left = []
    · rw [noFirst, first.empty.mp noFirst, List.nil_append, List.nil_append, second.joined]
    · by_cases noSecond : left' = []
      · rw [noSecond, second.empty.mp noSecond, List.append_nil, List.append_nil, first.joined]
      · rw [Text.joinWith_append [' '] noFirst noSecond,
          Text.joinWith_append [' '] (mt first.empty.mpr noFirst) (mt second.empty.mpr noSecond),
          first.joined, second.joined]
  · rw [List.append_eq_nil_iff, List.append_eq_nil_iff, first.empty, second.empty]

theorem joinFragments (same : SameOpen left right) (line : Nat) :
    Dockerfile.joinFragments line left = Dockerfile.joinFragments line right := by
  rw [Dockerfile.joinFragments, same.joined, Dockerfile.joinFragments]

theorem advance (same : SameOpen left right) (role : LineRole) :
    SameOpen (role.advance left) (role.advance right) := by
  cases role with
  | blank => exact refl []
  | comment => exact same
  | continued fragment =>
    by_cases lone : fragment = []
    · simpa only [LineRole.advance, lone, if_true] using same
    · simpa only [LineRole.advance, lone, if_false] using same.append (refl [fragment])
  | final fragment => exact refl []

theorem completed (same : SameOpen left right) (role : LineRole) (line : Nat) :
    role.completed line left = role.completed line right := by
  cases role with
  | blank =>
    by_cases closed : left = []
    · rw [closed, same.empty.mp closed]
    · rw [LineRole.completed, LineRole.completed, if_neg closed, if_neg (mt same.empty.mpr closed),
        same.joinFragments]
  | comment => rfl
  | continued fragment => rfl
  | final fragment =>
    rw [LineRole.completed, LineRole.completed, (same.append (refl [fragment])).joinFragments]

theorem readRoles (same : SameOpen left right) (line : Nat) (roles : List LineRole) :
    Dockerfile.readRoles line left roles = Dockerfile.readRoles line right roles := by
  induction roles generalizing left right line with
  | nil => rfl
  | cons role rest ih =>
    rw [Dockerfile.readRoles, Dockerfile.readRoles, same.completed role, ih (same.advance role)]

end SameOpen

end DockerfileLint
