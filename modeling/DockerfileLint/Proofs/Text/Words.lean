import DockerfileLint.Text.Blank
import DockerfileLint.Proofs.Text.Lines
import DockerfileLint.Proofs.Text.Trimming

namespace DockerfileLint.Text

variable {text word : Text} {c : Char}

theorem visible_of_mem_words (member : word ∈ words text) : ∀ c ∈ word, isBlank c = false :=
  not_of_mem_splitOnP (List.mem_filter.mp member).1

theorem ne_nil_of_mem_words (member : word ∈ words text) : word ≠ [] := by
  have kept := (List.mem_filter.mp member).2
  simpa using kept

theorem words_append_blank (left : Text) (blank : isBlank c = true) (right : Text) :
    words (left ++ c :: right) = words left ++ words right := by
  rw [words, List.splitOnP_append_cons left right blank, List.filter_append, words, words]

theorem visible_of_all (all : word.all (!isBlank ·) = true) : ∀ c ∈ word, isBlank c = false := by
  intro c member
  have kept := List.all_eq_true.mp all c member
  rwa [Bool.not_eq_true'] at kept

theorem words_of_visible (nonempty : word ≠ []) (visible : ∀ c ∈ word, isBlank c = false) :
    words word = [word] := by
  have kept : (!word.isEmpty) = true := by simpa using nonempty
  rw [words, List.splitOnP_eq_singleton visible]
  exact List.filter_cons_of_pos kept

theorem words_word (nonempty : word ≠ []) (visible : ∀ c ∈ word, isBlank c = false)
    (blank : isBlank c = true) (rest : Text) : words (word ++ c :: rest) = word :: words rest := by
  rw [words_append_blank word blank rest, words_of_visible nonempty visible]
  rfl

/-- Every text is a run of characters that are not blank, with a blank and another text behind it or
not. -/
@[elab_as_elim]
theorem word_induction {motive : Text → Prop}
    (last : ∀ word, (∀ c ∈ word, isBlank c = false) → motive word)
    (next : ∀ word c rest, (∀ c ∈ word, isBlank c = false) → isBlank c = true → motive rest →
      motive (word ++ c :: rest)) (text : Text) : motive text := by
  -- The run that has been read stands in front of what is left.
  have from_word (word : Text) (visible : ∀ c ∈ word, isBlank c = false) : motive (word ++ text) := by
    induction text generalizing word with
    | nil =>
      rw [List.append_nil]
      exact last word visible
    | cons c rest ih =>
      by_cases blank : isBlank c = true
      · exact next word c rest visible blank (ih [] (List.forall_mem_nil _))
      · have longer : ∀ d ∈ word ++ [c], isBlank d = false :=
          List.forall_mem_append.mpr
            ⟨visible, List.forall_mem_singleton.mpr (eq_false_of_ne_true blank)⟩
        have whole := ih (word ++ [c]) longer
        rwa [List.append_assoc, List.singleton_append] at whole
  exact from_word [] (List.forall_mem_nil _)

theorem words_ne_nil_of_starts (starts : StartsVisibly text) : words text ≠ [] := by
  obtain ⟨d, first, shown⟩ := starts
  induction text using word_induction with
  | last word visible =>
    have nonempty : word ≠ [] := List.ne_nil_of_mem (List.mem_of_mem_head? first)
    rw [words_of_visible nonempty visible]
    exact List.cons_ne_nil word []
  | next word c rest visible blank _ =>
    cases word with
    | nil =>
      obtain rfl : c = d := Option.some.inj first
      rw [blank] at shown
      cases shown
    | cons e others =>
      rw [words_word (List.cons_ne_nil e others) visible blank rest]
      exact List.cons_ne_nil _ _

/-- Nothing is left in front of a word, or a blank is the last of it. -/
def AtWordStart (before : Text) : Prop := ∀ c, before.getLast? = some c → isBlank c = true

/-- Nothing is left behind a word, or a blank comes next. -/
def AtWordEnd (after : Text) : Prop := ∀ c, after.head? = some c → isBlank c = true

private theorem eq_of_mem_words_visible {run : Text} (visible : ∀ c ∈ run, isBlank c = false)
    (member : word ∈ words run) : word = run := by
  have nonempty : run ≠ [] := by
    rintro rfl
    cases member
  rw [words_of_visible nonempty visible] at member
  exact List.mem_singleton.mp member

/-- A word of a text has blanks around it, or an end of the text. -/
theorem exists_around_of_mem_words (member : word ∈ words text) :
    ∃ before after, text = before ++ word ++ after ∧ AtWordStart before ∧ AtWordEnd after := by
  have nothing : AtWordStart [] := fun _ impossible => nomatch impossible
  induction text using word_induction with
  | last run visible =>
    obtain rfl := eq_of_mem_words_visible visible member
    exact ⟨[], [], (List.append_nil _).symm, nothing, fun _ impossible => nomatch impossible⟩
  | next run c rest visible blank ih =>
    rw [words_append_blank run blank rest] at member
    rcases List.mem_append.mp member with here | later
    · obtain rfl := eq_of_mem_words_visible visible here
      refine ⟨[], c :: rest, rfl, nothing, ?_⟩
      intro d first
      obtain rfl : c = d := Option.some.inj first
      exact blank
    · obtain ⟨before, after, whole, starts, ends⟩ := ih later
      refine ⟨run ++ c :: before, after, ?_, ?_, ends⟩
      · rw [whole]
        simp
      · intro d last
        rw [List.getLast?_append_of_ne_nil _ (List.cons_ne_nil c before)] at last
        cases before with
        | nil =>
          obtain rfl : c = d := Option.some.inj last
          exact blank
        | cons e others =>
          rw [List.getLast?_cons_cons] at last
          exact starts d last

/-- Of the words behind the first each has a blank in front of it. -/
theorem exists_blank_of_mem_tail_words (member : word ∈ (words text).tail) :
    ∃ before c after, text = before ++ c :: (word ++ after) ∧ isBlank c = true ∧
      AtWordEnd after := by
  induction text using word_induction with
  | last run visible =>
    have only := eq_of_mem_words_visible visible (List.mem_of_mem_tail member)
    have whole : words run = [run] := by
      apply words_of_visible _ visible
      rw [← only]
      exact ne_nil_of_mem_words (List.mem_of_mem_tail member)
    rw [whole] at member
    cases member
  | next run c rest visible blank _ =>
    have later : word ∈ words rest := by
      rw [words_append_blank run blank rest] at member
      by_cases bare : run = []
      · rw [bare] at member
        exact List.mem_of_mem_tail member
      · rwa [words_of_visible bare visible] at member
    obtain ⟨before, after, whole, starts, ends⟩ := exists_around_of_mem_words later
    rcases List.eq_nil_or_concat' before with rfl | ⟨front, d, rfl⟩
    · exact ⟨run, c, after, by rw [whole]; rfl, blank, ends⟩
    · exact ⟨run ++ c :: front, d, after, by rw [whole]; simp, starts d List.getLast?_concat, ends⟩

end DockerfileLint.Text
