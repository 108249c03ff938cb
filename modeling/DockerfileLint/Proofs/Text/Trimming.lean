import DockerfileLint.Text.Blank
import DockerfileLint.Text.Lines
import Mathlib.Data.List.DropRight

namespace DockerfileLint.Text

def StartsVisibly (text : Text) : Prop := ∃ c, text.head? = some c ∧ isBlank c = false

def EndsVisibly (text : Text) : Prop := ∃ c, text.getLast? = some c ∧ isBlank c = false

/-- Neither end of the text is blank; in particular it is not empty. -/
structure Trimmed (text : Text) : Prop where
  starts : StartsVisibly text
  ends : EndsVisibly text

variable {text left right blanks : Text}

theorem startsVisibly_reverse : StartsVisibly text.reverse ↔ EndsVisibly text := by
  simp [StartsVisibly, EndsVisibly, List.head?_reverse]

theorem StartsVisibly.ne_nil (starts : StartsVisibly text) : text ≠ [] := by
  obtain ⟨c, first, _⟩ := starts
  rintro rfl
  cases first

theorem EndsVisibly.ne_nil (ends : EndsVisibly text) : text ≠ [] := by
  obtain ⟨c, last, _⟩ := ends
  rintro rfl
  cases last

theorem Trimmed.ne_nil (trimmed : Trimmed text) : text ≠ [] := trimmed.starts.ne_nil

theorem trimmed_of_visible (nonempty : text ≠ []) (visible : ∀ c ∈ text, isBlank c = false) :
    Trimmed text where
  starts := ⟨_, List.head?_eq_some_head nonempty, visible _ (List.head_mem nonempty)⟩
  ends := ⟨_, List.getLast?_eq_some_getLast nonempty, visible _ (List.getLast_mem nonempty)⟩

theorem StartsVisibly.append (starts : StartsVisibly left) (right : Text) :
    StartsVisibly (left ++ right) := by
  obtain ⟨c, first, visible⟩ := starts
  exact ⟨c, by simp [List.head?_append, first], visible⟩

theorem EndsVisibly.append (ends : EndsVisibly right) (left : Text) :
    EndsVisibly (left ++ right) := by
  obtain ⟨c, last, visible⟩ := ends
  exact ⟨c, by simp [List.getLast?_append, last], visible⟩

theorem EndsVisibly.of_isSuffix (ends : EndsVisibly text) (final : right <:+ text)
    (nonempty : right ≠ []) : EndsVisibly right := by
  obtain ⟨c, last, visible⟩ := ends
  obtain ⟨front, rfl⟩ := final
  exact ⟨c, by rw [← last, List.getLast?_append_of_ne_nil _ nonempty], visible⟩

theorem trimStart_of_starts (starts : StartsVisibly text) : trimStart text = text := by
  obtain ⟨c, first, visible⟩ := starts
  cases text with
  | nil => rfl
  | cons d rest =>
    obtain rfl : d = c := Option.some.inj first
    exact List.dropWhile_cons_of_neg (by simp [visible])

theorem trimEnd_of_ends (ends : EndsVisibly text) : trimEnd text = text := by
  have same := trimStart_of_starts (startsVisibly_reverse.mpr ends)
  simpa [trimEnd, trimStart] using congrArg List.reverse same

theorem Trimmed.trim_eq (trimmed : Trimmed text) : trim text = text := by
  rw [trim, trimStart_of_starts trimmed.starts, trimEnd_of_ends trimmed.ends]

theorem trimStart_eq_nil : trimStart text = [] ↔ ∀ c ∈ text, isBlank c = true := by
  simp [trimStart]

theorem trimEnd_eq_nil : trimEnd text = [] ↔ ∀ c ∈ text, isBlank c = true :=
  List.rdropWhile_eq_nil_iff

theorem prefix_trimEnd (text : Text) : trimEnd text <+: text :=
  List.rdropWhile_prefix isBlank text

theorem trim_infix (text : Text) : trim text <:+: text :=
  (prefix_trimEnd text.trimStart).isInfix.trans (List.dropWhile_suffix isBlank).isInfix

theorem starts_trimStart (visible : trimStart text ≠ []) : StartsVisibly (trimStart text) := by
  have first := List.head?_dropWhile_not isBlank text
  cases same : trimStart text with
  | nil => exact absurd same visible
  | cons c rest =>
    rw [trimStart] at same
    refine ⟨c, rfl, ?_⟩
    simpa [same] using first

theorem ends_trimEnd (visible : trimEnd text ≠ []) : EndsVisibly (trimEnd text) := by
  have starts : StartsVisibly (trimStart text.reverse) :=
    starts_trimStart (by simpa [trimEnd, trimStart] using visible)
  rw [← List.reverse_reverse (trimStart text.reverse)] at starts
  exact startsVisibly_reverse.mp starts

theorem StartsVisibly.trimEnd_ne_nil (starts : StartsVisibly text) : trimEnd text ≠ [] := by
  obtain ⟨c, first, visible⟩ := starts
  intro empty
  simp [trimEnd_eq_nil.mp empty c (List.mem_of_mem_head? first)] at visible

theorem EndsVisibly.trimStart_ne_nil (ends : EndsVisibly text) : trimStart text ≠ [] := by
  obtain ⟨c, last, visible⟩ := ends
  intro empty
  simp [trimStart_eq_nil.mp empty c (List.mem_of_mem_getLast? last)] at visible

theorem StartsVisibly.head?_trimEnd (starts : StartsVisibly text) :
    (trimEnd text).head? = text.head? := by
  obtain ⟨rest, whole⟩ := prefix_trimEnd text
  cases same : trimEnd text with
  | nil => exact absurd same starts.trimEnd_ne_nil
  | cons c kept => rw [← whole, same]; rfl

theorem StartsVisibly.trimEnd (starts : StartsVisibly text) : StartsVisibly (trimEnd text) := by
  obtain ⟨c, first, visible⟩ := id starts
  exact ⟨c, by rw [starts.head?_trimEnd, first], visible⟩

theorem EndsVisibly.trimStart (ends : EndsVisibly text) : EndsVisibly (trimStart text) := by
  have reversed : (Text.trimStart text).reverse = Text.trimEnd text.reverse := by
    simp [Text.trimStart, Text.trimEnd]
  rw [← startsVisibly_reverse, reversed]
  exact (startsVisibly_reverse.mpr ends).trimEnd

theorem EndsVisibly.trim_eq (ends : EndsVisibly text) : trim text = Text.trimStart text := by
  rw [trim, trimEnd_of_ends ends.trimStart]

/-- Whatever is put behind a text, it starts as the trimmed text does. -/
theorem EndsVisibly.head?_trimStart_append (ends : EndsVisibly text) (right : Text) :
    (Text.trimStart text ++ right).head? = (trim text).head? := by
  obtain ⟨c, rest, same⟩ := List.exists_cons_of_ne_nil ends.trimStart_ne_nil
  rw [ends.trim_eq, same]
  rfl

theorem StartsVisibly.trim_eq (starts : StartsVisibly text) : trim text = Text.trimEnd text := by
  rw [trim, trimStart_of_starts starts]

theorem trimmed_trim (visible : trim text ≠ []) : Trimmed (trim text) := by
  refine ⟨StartsVisibly.trimEnd (starts_trimStart ?_), ends_trimEnd visible⟩
  intro empty
  exact visible (by rw [trim, empty]; rfl)

theorem trim_eq_nil : trim text = [] ↔ ∀ c ∈ text, isBlank c = true := by
  rw [← trimStart_eq_nil]
  constructor
  · intro empty
    by_contra visible
    exact (starts_trimStart visible).trimEnd_ne_nil empty
  · intro empty
    rw [trim, empty]
    rfl

/-- A text is its trimmed form with blanks around it. -/
theorem exists_blanks_around_trim (text : Text) :
    ∃ front back, (∀ c ∈ front, isBlank c = true) ∧ (∀ c ∈ back, isBlank c = true) ∧
      text = front ++ (trim text ++ back) := by
  have ending : trimStart text =
      trim text ++ ((trimStart text).reverse.takeWhile isBlank).reverse := by
    rw [trim, trimEnd, ← List.reverse_append, List.takeWhile_append_dropWhile, List.reverse_reverse]
  refine ⟨text.takeWhile isBlank, ((trimStart text).reverse.takeWhile isBlank).reverse,
    fun c member => List.mem_takeWhile_imp member,
    fun c member => List.mem_takeWhile_imp (List.mem_reverse.mp member), ?_⟩
  rw [← ending, trimStart, List.takeWhile_append_dropWhile]

theorem trim_trim (text : Text) : trim (trim text) = trim text := by
  by_cases visible : trim text = []
  · rw [visible]
    rfl
  · exact (trimmed_trim visible).trim_eq

theorem trimStart_blanks_append (blank : ∀ c ∈ blanks, isBlank c = true) (text : Text) :
    trimStart (blanks ++ text) = trimStart text := List.dropWhile_append_of_pos blank

theorem trimEnd_append_blanks (text : Text) (blank : ∀ c ∈ blanks, isBlank c = true) :
    trimEnd (text ++ blanks) = trimEnd text := by
  have reversed : ∀ c ∈ blanks.reverse, isBlank c = true := by simpa using blank
  rw [trimEnd, List.reverse_append, List.dropWhile_append_of_pos reversed, trimEnd]

theorem trimStart_append (visible : trimStart left ≠ []) (right : Text) :
    trimStart (left ++ right) = trimStart left ++ right := by
  simp only [trimStart] at visible ⊢
  simp [List.dropWhile_append, visible]

theorem EndsVisibly.head?_trim_append (ends : EndsVisibly text) (right : Text) :
    (trim (text ++ right)).head? = (trim text).head? := by
  have starts := (starts_trimStart ends.trimStart_ne_nil).append right
  rw [trim, trimStart_append ends.trimStart_ne_nil, starts.head?_trimEnd,
    ends.head?_trimStart_append]

theorem trimEnd_append (left : Text) (visible : trimEnd right ≠ []) :
    trimEnd (left ++ right) = left ++ trimEnd right := by
  have kept : right.reverse.dropWhile isBlank ≠ [] := by simpa [trimEnd] using visible
  simp [trimEnd, List.dropWhile_append, kept]

theorem trim_blanks_append (blank : ∀ c ∈ blanks, isBlank c = true) (text : Text) :
    trim (blanks ++ text) = trim text := by
  rw [trim, trimStart_blanks_append blank, trim]

theorem trim_append_blanks (text : Text) (blank : ∀ c ∈ blanks, isBlank c = true) :
    trim (text ++ blanks) = trim text := by
  by_cases visible : trimStart text = []
  · have allBlank : ∀ c ∈ text ++ blanks, isBlank c = true :=
      List.forall_mem_append.mpr ⟨trimStart_eq_nil.mp visible, blank⟩
    rw [trim, trimStart_eq_nil.mpr allBlank, trim, visible]
  · rw [trim, trimStart_append visible, trimEnd_append_blanks _ blank, trim]

/-- Whether a line keeps the carriage return of its ending cannot be seen after trimming. -/
theorem trim_dropReturn (line : Text) : trim (dropReturn line) = trim line := by
  unfold dropReturn
  split
  · rename_i ending
    obtain ⟨kept, rfl⟩ := List.getLast?_eq_some_iff.mp ending
    rw [List.dropLast_concat]
    exact (trim_append_blanks kept (by simp; decide)).symm
  · rfl

end DockerfileLint.Text
