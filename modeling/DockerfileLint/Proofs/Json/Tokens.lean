import DockerfileLint.Json
import DockerfileLint.Proofs.Json.Reading
import Mathlib.Data.List.Forall2

/-! Cutting what has been rendered.  A string is one token, because no quote in it is left without
its backslash; a number is one as long as something behind it ends the word; and new lines leave
nothing. -/

namespace DockerfileLint

/-- The three ways in which a character is written in a string. -/
inductive Json.Escaping (c : Char) : Text → Prop where
  | letter {letter : Char} (known : JsonValue.escape? letter = some c) (other : letter ≠ 'u') :
      Escaping c ['\\', letter]
  | unit (control : c.toNat < 0x20) :
      Escaping c ['\\', 'u', '0', '0', Nat.digitChar (c.toNat / 16), Nat.digitChar (c.toNat % 16)]
  | plain (unquoted : c ≠ '"') (unescaped : c ≠ '\\') (printed : ¬c.toNat < 0x20) : Escaping c [c]

theorem Json.escaping_escaped (c : Char) : Escaping c (escaped c) := by
  rw [escaped.eq_def]
  split
  · exact @Escaping.letter '"' '"' rfl (by decide)
  · exact @Escaping.letter '\\' '\\' rfl (by decide)
  · exact @Escaping.letter '\x08' 'b' rfl (by decide)
  · exact @Escaping.letter '\x0c' 'f' rfl (by decide)
  · exact @Escaping.letter '\n' 'n' rfl (by decide)
  · exact @Escaping.letter '\r' 'r' rfl (by decide)
  · exact @Escaping.letter '\t' 't' rfl (by decide)
  · rename_i unquoted unescaped _ _ _ _ _
    split
    · rename_i control
      exact .unit control
    · rename_i printed
      exact .plain unquoted unescaped printed

namespace JsonToken

variable {text other : Text} {tokens others : List JsonToken} {c : Char}

def EndsWord (text : Text) : Prop :=
  ∀ c, text.head? = some c → c = '"' ∨ isBlank c = true ∨ (mark? c).isSome = true

theorem endsWord_cons_of_mark {mark : JsonToken} (known : mark? c = some mark) :
    EndsWord (c :: text) := by
  intro first same
  obtain rfl := Option.some.inj same
  exact .inr (.inr (Option.isSome_iff_exists.mpr ⟨mark, known⟩))

theorem endsWord_newLine (level : Nat) : EndsWord (Json.newLine level ++ text) := by
  intro first same
  obtain rfl := Option.some.inj same
  exact .inr (.inl rfl)

/-- The text is cut into the tokens, whatever follows it. -/
def Cuts (text : Text) (tokens : List JsonToken) : Prop :=
  ∀ rest, EndsWord rest → cut (.word []) (text ++ rest) = (cut (.word []) rest).map (tokens ++ ·)

theorem cut_blank (blank : isBlank c = true) (rest : Text) :
    cut (.word []) (c :: rest) = cut (.word []) rest := by
  have unquoted : c ≠ '"' := by
    rintro rfl
    cases blank
  rw [cut, if_neg unquoted, if_pos blank, ofWord, if_pos rfl]
  simp only [List.nil_append, Option.map_id']

theorem cut_mark {mark : JsonToken} (known : mark? c = some mark) (rest : Text) :
    cut (.word []) (c :: rest) = (cut (.word []) rest).map (mark :: ·) := by
  have unquoted : c ≠ '"' := by
    rintro rfl
    cases known
  have visible : ¬isBlank c = true := by
    intro blank
    simp only [isBlank, Bool.or_eq_true, beq_iff_eq] at blank
    rcases blank with ((rfl | rfl) | rfl) | rfl <;> cases known
  rw [cut, if_neg unquoted, if_neg visible, known, ofWord, if_pos rfl]
  simp only [List.nil_append]

theorem cut_newLine (level : Nat) (rest : Text) :
    cut (.word []) (Json.newLine level ++ rest) = cut (.word []) rest := by
  rw [Json.newLine, List.cons_append, cut_blank rfl]
  induction 2 * level with
  | zero => rfl
  | succ count ih => rw [List.replicate_succ, List.cons_append, cut_blank rfl, ih]

theorem cut_word {word : Text} (plain : ∀ c ∈ word, c ≠ '"' ∧ isBlank c = false ∧ mark? c = none)
    (begun rest : Text) :
    cut (.word begun) (word ++ rest) = cut (.word (begun ++ word)) rest := by
  induction word generalizing begun with
  | nil => rw [List.nil_append, List.append_nil]
  | cons c word ih =>
    obtain ⟨unquoted, visible, unmarked⟩ := plain c List.mem_cons_self
    have later := ih (fun c member => plain c (List.mem_cons_of_mem _ member)) (begun ++ [c])
    rw [List.cons_append, cut, if_neg unquoted, if_neg (ne_true_of_eq_false visible), unmarked]
    rw [later, List.append_assoc, List.singleton_append]

theorem cut_word_end {begun rest : Text} (nonempty : begun ≠ []) (ends : EndsWord rest) :
    cut (.word begun) rest = (cut (.word []) rest).map (word begun :: ·) := by
  cases rest with
  | nil => simp [cut, ofWord, nonempty]
  | cons c rest =>
    by_cases quote : c = '"'
    · simp [cut, quote, ofWord, nonempty]
    · by_cases blank : isBlank c = true
      · simp [cut, quote, blank, ofWord, nonempty]
      · rcases ends c rfl with same | same | known
        · exact absurd same quote
        · exact absurd same blank
        · obtain ⟨mark, known⟩ := Option.isSome_iff_exists.mp known
          simp [cut, quote, blank, known, ofWord, nonempty, Function.comp_def]

theorem Cuts.word {word : Text} (nonempty : word ≠ [])
    (plain : ∀ c ∈ word, c ≠ '"' ∧ isBlank c = false ∧ mark? c = none) :
    Cuts word [.word word] := by
  intro rest ends
  rw [cut_word plain, List.nil_append, cut_word_end nonempty ends]
  rfl

theorem Cuts.append (first : Cuts text tokens) (ends : EndsWord other)
    (nonempty : other ≠ []) (second : Cuts other others) :
    Cuts (text ++ other) (tokens ++ others) := by
  intro rest closed
  have between : EndsWord (other ++ rest) := by
    intro c same
    rw [List.head?_append_of_ne_nil _ nonempty] at same
    exact ends c same
  rw [List.append_assoc, first _ between, second rest closed, Option.map_map]
  simp only [Function.comp_def, List.append_assoc]

theorem Cuts.mark {mark : JsonToken} (known : mark? c = some mark) (rest : Cuts text tokens) :
    Cuts (c :: text) (mark :: tokens) := by
  intro back ends
  rw [List.cons_append, cut_mark known, rest back ends, Option.map_map]
  rfl

theorem Cuts.blank (blank : isBlank c = true) (rest : Cuts text tokens) :
    Cuts (c :: text) tokens := by
  intro back ends
  rw [List.cons_append, cut_blank blank, rest back ends]

theorem Cuts.newLine (level : Nat) (rest : Cuts text tokens) :
    Cuts (Json.newLine level ++ text) tokens := by
  intro back ends
  rw [List.append_assoc, cut_newLine, rest back ends]

theorem Cuts.nil : Cuts [] [] := by
  intro rest _
  simp only [List.nil_append, Option.map_id']

/-- A character goes into the string as it is written, with its backslash. -/
theorem cut_quoted {written : Text} (escaping : Json.Escaping c written) (begun rest : Text) :
    cut (.quoted begun) (written ++ rest) = cut (.quoted (begun ++ written)) rest := by
  cases escaping with
  | letter known other => simp [cut]
  | unit control =>
    have unquoted (n : Nat) : Nat.digitChar n ≠ '"' := Nat.digitChar_ne _ rfl
    have unescaped (n : Nat) : Nat.digitChar n ≠ '\\' := Nat.digitChar_ne _ rfl
    simp [cut, unquoted, unescaped]
  | plain unquoted unescaped printed => simp [cut, unquoted, unescaped]

theorem cut_quoted_content (begun content rest : Text) :
    cut (.quoted begun) (content.flatMap Json.escaped ++ '"' :: rest) =
      (cut (.word []) rest).map (.quoted (begun ++ content.flatMap Json.escaped) :: ·) := by
  induction content generalizing begun with
  | nil =>
    rw [List.flatMap_nil, List.append_nil]
    rfl
  | cons c content ih =>
    rw [List.flatMap_cons, List.append_assoc, cut_quoted (Json.escaping_escaped c), ih,
      List.append_assoc]

theorem Cuts.quote (content : Text) :
    Cuts (Json.quote content) [.quoted (content.flatMap Json.escaped)] := by
  intro rest _
  have whole : Json.quote content ++ rest =
      '"' :: (content.flatMap Json.escaped ++ '"' :: rest) := by
    simp [Json.quote]
  rw [whole, cut, if_pos rfl, cut_quoted_content, Option.map_map]
  rfl

theorem Cuts.ofNat (n : Nat) : Cuts (Text.ofNat n) [.word (Text.ofNat n)] := by
  apply Cuts.word Nat.toDigits_ne_nil
  intro c member
  have digit : c.isDigit = true := Nat.isDigit_of_mem_toDigits (by decide) (by decide) member
  have unquoted : c ≠ '"' := by
    rintro rfl
    cases digit
  have visible : isBlank c = false := by
    refine eq_false_of_ne_true fun blank => ?_
    simp only [isBlank, Bool.or_eq_true, beq_iff_eq] at blank
    rcases blank with ((rfl | rfl) | rfl) | rfl <;> cases digit
  have unmarked : mark? c = none := by
    rw [mark?.eq_def]
    split <;> first | cases digit | rfl
  exact ⟨unquoted, visible, unmarked⟩

theorem Cuts.intercalate {texts : List Text} {pieces : List (List JsonToken)} (level : Nat)
    (each : List.Forall₂ Cuts texts pieces) :
    Cuts (Text.joinWith (',' :: Json.newLine level) texts) (List.intercalate [.comma] pieces) := by
  rw [Text.joinWith]
  induction each with
  | nil => exact Cuts.nil
  | @cons text tokens texts pieces first others ih =>
    cases others with
    | nil =>
      rw [List.intercalate_singleton, List.intercalate_singleton]
      exact first
    | cons second more =>
      rw [List.intercalate_cons_cons, List.intercalate_cons_cons, List.append_assoc,
        List.append_assoc, List.cons_append, List.singleton_append]
      exact first.append (endsWord_cons_of_mark rfl) (List.cons_ne_nil _ _)
        (.mark rfl (.newLine level ih))

/-- Pieces between two marks, each on a line of its own. -/
theorem Cuts.enclose {opening closing : Char} {first last : JsonToken} {texts : List Text}
    {pieces : List (List JsonToken)} (level : Nat) (opens : mark? opening = some first)
    (closes : mark? closing = some last) (each : List.Forall₂ Cuts texts pieces) :
    Cuts (Json.enclose opening closing level texts)
      (first :: List.intercalate [.comma] pieces ++ [last]) := by
  have inside := (Cuts.intercalate (level + 1) each).append (endsWord_newLine level)
    (by simp [Json.newLine]) (.newLine level (.mark closes .nil))
  simp only [Json.enclose, List.cons_append, List.append_assoc]
  exact .mark opens (.newLine (level + 1) inside)

end JsonToken

end DockerfileLint
