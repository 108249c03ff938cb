import DockerfileLint.Proofs.Dockerfile.Position

/-! A dot that stands alone after something else, as seen in the raw arguments and as seen in their
words.  Trimmed arguments in which the dot is found have it as a word that is not the first; the other
way round, spaces have to be the only blanks. -/

namespace DockerfileLint

def Text.SpacedOnly (text : Text) : Prop := ∀ c ∈ text, isBlank c = true → c = ' '

theorem Text.spacedOnly_of_all {text : Text} (all : text.all (fun c => !isBlank c || c == ' ') = true) :
    SpacedOnly text := by
  intro c member blank
  have kept := List.all_eq_true.mp all c member
  rw [blank] at kept
  exact beq_iff_eq.mp kept

namespace Instruction

variable {instruction : Instruction}

private theorem words_front_ne_nil {front back : Text}
    (trimmed : Text.trim instruction.arguments = instruction.arguments)
    (whole : instruction.arguments = front ++ ' ' :: back) : Text.words front ≠ [] := by
  have visible : Text.trim instruction.arguments ≠ [] := by
    rw [trimmed, whole]
    simp
  have starts := (Text.trimmed_trim visible).starts
  rw [trimmed, whole] at starts
  obtain ⟨c, first, shown⟩ := starts
  cases front with
  | nil =>
    obtain rfl : ' ' = c := Option.some.inj first
    cases shown
  | cons d rest => exact Text.words_ne_nil_of_starts ⟨c, first, shown⟩

private theorem mem_tail_words {front word : Text} {rest : List Text}
    (before : Text.words front ≠ []) : word ∈ (Text.words front ++ word :: rest).tail := by
  rw [List.tail_append_of_ne_nil before]
  exact List.mem_append_right _ List.mem_cons_self

theorem mem_tail_tokens_of_hasLoneDot
    (trimmed : Text.trim instruction.arguments = instruction.arguments)
    (found : instruction.hasLoneDot = true) : ("." : Text) ∈ instruction.tokens.tail := by
  have dot : ∀ c ∈ ("." : Text), Text.isBlank c = false := Text.visible_of_all rfl
  have some : ("." : Text) ≠ [] := List.cons_ne_nil _ _
  have space : Text.isBlank ' ' = true := rfl
  rw [tokens]
  rcases hasLoneDot_eq_true_iff.mp found with ⟨front, back, whole⟩ | ⟨front, whole⟩
  · have split : instruction.arguments = front ++ ' ' :: (("." : Text) ++ ' ' :: back) := by
      rw [← whole, List.append_assoc]
      rfl
    rw [split, Text.words_append_blank front space, Text.words_word some dot space]
    exact mem_tail_words (words_front_ne_nil trimmed split)
  · have split : instruction.arguments = front ++ ' ' :: ("." : Text) := by
      rw [← whole]
      rfl
    rw [split, Text.words_append_blank front space, Text.words_of_visible some dot]
    exact mem_tail_words (words_front_ne_nil trimmed split)

theorem hasLoneDot_of_mem_tail_tokens (spaced : Text.SpacedOnly instruction.arguments)
    (later : ("." : Text) ∈ instruction.tokens.tail) : instruction.hasLoneDot = true := by
  obtain ⟨front, c, back, whole, blank, ends⟩ := Text.exists_blank_of_mem_tail_words later
  obtain rfl : c = ' ' := spaced c (by simp [whole]) blank
  apply hasLoneDot_eq_true_iff.mpr
  cases back with
  | nil =>
    refine .inr ⟨front, ?_⟩
    rw [whole, List.append_nil]
    rfl
  | cons d rest =>
    obtain rfl : d = ' ' := spaced d (by simp [whole]) (ends d rfl)
    refine .inl ⟨front, rest, ?_⟩
    rw [whole, List.append_assoc]
    rfl

end Instruction

namespace Dockerfile

/-- The search in raw arguments agrees with a search among words.  A `COPY` whose only blanks are
spaces has a lone dot exactly if a word behind the first is a dot; if all are like that, the first
`COPY` with a lone dot is the first with such a word; and whatever the blanks are, a dot that is only
the first word is not found. -/
theorem parse_hasLoneDot_iff (path content : Text) :
    let dockerfile := parse path content
    (∀ copy ∈ dockerfile.instructions, copy.is "COPY" = true → Text.SpacedOnly copy.arguments →
        (copy.hasLoneDot = true ↔ ("." : Text) ∈ copy.tokens.tail)) ∧
      ((∀ copy ∈ dockerfile.instructions, copy.is "COPY" = true → Text.SpacedOnly copy.arguments) →
        ∀ first, dockerfile.firstContextCopy? = some first ↔
          dockerfile.IsFirst (fun copy => copy.is "COPY" = true ∧ ("." : Text) ∈ copy.tokens.tail)
            first) ∧
      ∀ copy ∈ dockerfile.instructions, ∀ others : List Text,
        copy.tokens = ("." : Text) :: others → ("." : Text) ∉ others →
        copy.hasLoneDot = false ∧ dockerfile.firstContextCopy? ≠ some copy := by
  intro dockerfile
  have sound (copy : Instruction) (member : copy ∈ dockerfile.instructions)
      (found : copy.hasLoneDot = true) : ("." : Text) ∈ copy.tokens.tail :=
    Instruction.mem_tail_tokens_of_hasLoneDot (trim_arguments_of_mem_parse member) found
  have agrees (copy : Instruction) (member : copy ∈ dockerfile.instructions)
      (spaced : Text.SpacedOnly copy.arguments) :
      copy.hasLoneDot = true ↔ ("." : Text) ∈ copy.tokens.tail :=
    ⟨sound copy member, Instruction.hasLoneDot_of_mem_tail_tokens spaced⟩
  refine ⟨fun copy member _ => agrees copy member, ?_, ?_⟩
  · intro spaced first
    rw [firstContextCopy?_eq_some_iff]
    apply IsFirst.congr_mem
    intro copy member
    refine and_congr_right fun named => ?_
    rw [← Instruction.hasLoneDot_eq_true_iff]
    exact agrees copy member (spaced copy member named)
  · intro copy member others tokens absent
    have unfound : ¬copy.hasLoneDot = true := by
      intro found
      have later := sound copy member found
      rw [tokens] at later
      exact absent later
    refine ⟨eq_false_of_ne_true unfound, ?_⟩
    intro chosen
    have first := firstContextCopy?_eq_some_iff.mp chosen
    exact unfound (Instruction.hasLoneDot_eq_true_iff.mpr first.holds.2)

/-- Neither a dot in front nor dots inside words count; the spaces around a dot may be many. -/
theorem parse_hasLoneDot_iff_among :
    let dockerfile := parse [] "COPY . ./app\nCOPY a .b  .  c\n"
    let plain : Instruction := ⟨"COPY", ". ./app", 1, "COPY . ./app"⟩
    let dotted : Instruction := ⟨"COPY", "a .b  .  c", 2, "COPY a .b  .  c"⟩
    dockerfile.instructions = [plain, dotted] ∧ dotted.is "COPY" = true ∧
      Text.SpacedOnly plain.arguments ∧ Text.SpacedOnly dotted.arguments ∧
      (dotted.hasLoneDot = true ↔ ("." : Text) ∈ dotted.tokens.tail) ∧
      dockerfile.firstContextCopy? = some dotted ∧
      plain.tokens = [(".": Text), ("./app" : Text)] ∧ plain.hasLoneDot = false := by
  intro dockerfile plain dotted
  have instructions : dockerfile.instructions = [plain, dotted] := by decide +kernel
  have named : dotted.is "COPY" = true := by decide +kernel
  have plainSpaced : Text.SpacedOnly plain.arguments := Text.spacedOnly_of_all rfl
  have spaced : Text.SpacedOnly dotted.arguments := Text.spacedOnly_of_all rfl
  have tokens : plain.tokens = [(".": Text), ("./app" : Text)] := by decide +kernel
  have later : ("." : Text) ∈ dotted.tokens.tail := by decide +kernel
  have others : ("." : Text) ∉ [("./app" : Text)] := by decide +kernel
  obtain ⟨agrees, finds, unfound⟩ := parse_hasLoneDot_iff [] "COPY . ./app\nCOPY a .b  .  c\n"
  have members : ∀ copy, copy ∈ dockerfile.instructions ↔ copy = plain ∨ copy = dotted := by
    intro copy
    rw [instructions, List.mem_pair]
  have all : ∀ copy ∈ dockerfile.instructions, copy.is "COPY" = true →
      Text.SpacedOnly copy.arguments := by
    intro copy member _
    rcases (members copy).mp member with rfl | rfl
    · exact plainSpaced
    · exact spaced
  have dotless : plain.hasLoneDot = false :=
    (unfound plain ((members plain).mpr (.inl rfl)) _ tokens others).1
  have first : dockerfile.IsFirst
      (fun copy => copy.is "COPY" = true ∧ ("." : Text) ∈ copy.tokens.tail) dotted := by
    refine ⟨⟨named, later⟩, [plain], [], instructions, ?_⟩
    refine List.forall_mem_singleton.mpr fun both => others ?_
    have dot := both.2
    rwa [tokens] at dot
  exact ⟨instructions, named, plainSpaced, spaced,
    agrees dotted ((members dotted).mpr (.inr rfl)) named spaced, (finds all dotted).mpr first,
    tokens, dotless⟩

-- A tab in front of the dot hides it from the search in raw arguments.
example : (Instruction.make "COPY" "a\t." 1 "COPY a\t.").hasLoneDot = false := by decide

end Dockerfile

end DockerfileLint
