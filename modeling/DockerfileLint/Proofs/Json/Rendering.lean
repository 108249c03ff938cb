import DockerfileLint.Proofs.Json.Tokens
import Mathlib.Data.List.TakeWhile

namespace DockerfileLint

namespace Json

mutual

def toValue : Json → JsonValue
  | .string content => .string content
  | .number n => .number { significand := n, exponent := 0 }
  | .array elements => .array (elementValues elements)
  | .object members => .object (memberValues members)

def elementValues : List Json → List JsonValue
  | [] => []
  | element :: rest => element.toValue :: elementValues rest

def memberValues : List (Text × Json) → List (Text × JsonValue)
  | [] => []
  | (key, value) :: rest => (key, value.toValue) :: memberValues rest

end

end Json

namespace JsonValue

section Strings

theorem hexDigit?_digitChar : ∀ n < 16, Toml.hexDigit? (Nat.digitChar n) = some n := by
  decide

theorem codeUnit?_control {c : Char} (control : c.toNat < 0x20) :
    codeUnit? ['0', '0', Nat.digitChar (c.toNat / 16), Nat.digitChar (c.toNat % 16)] =
      some c.toNat := by
  have high := hexDigit?_digitChar (c.toNat / 16) (by omega)
  have low := hexDigit?_digitChar (c.toNat % 16) (by omega)
  have zero : Toml.hexDigit? '0' = some 0 := rfl
  have whole : 16 * (c.toNat / 16) + c.toNat % 16 = c.toNat := Nat.div_add_mod c.toNat 16
  simp [codeUnit?, Toml.ofDigits, high, low, zero, whole]

theorem piece_of_escaping {c : Char} {written : Text} (escaping : Json.Escaping c written) :
    ∃ piece, (∀ rest, pieces? (written ++ rest) = (pieces? rest).map (piece :: ·)) ∧
      ∀ rest, assemble? (piece :: rest) = (assemble? rest).map (c :: ·) := by
  cases escaping with
  | @letter letter known other =>
    refine ⟨.plain c, fun rest => ?_, fun rest => rfl⟩
    simp [pieces?, known, other]
  | unit control =>
    refine ⟨.unit c.toNat, fun rest => ?_, fun rest => ?_⟩
    · simp [pieces?, codeUnit?_control control]
    · have high : isHighSurrogate c.toNat = false := by
        simp only [isHighSurrogate, Bool.and_eq_false_iff, decide_eq_false_iff_not]
        omega
      have low : isLowSurrogate c.toNat = false := by
        simp only [isLowSurrogate, Bool.and_eq_false_iff, decide_eq_false_iff_not]
        omega
      rcases rest with _ | ⟨_ | _, rest⟩ <;> simp [assemble?, high, low]
  | plain unquoted unescaped printed =>
    refine ⟨.plain c, fun rest => ?_, fun rest => rfl⟩
    simp [pieces?, unescaped, printed]

theorem content?_escaped (content : Text) :
    content? (content.flatMap Json.escaped) = some content := by
  have parts : ∃ pieces, pieces? (content.flatMap Json.escaped) = some pieces ∧
      assemble? pieces = some content := by
    induction content with
    | nil => exact ⟨[], rfl, rfl⟩
    | cons c content ih =>
      obtain ⟨pieces, cut, assembled⟩ := ih
      obtain ⟨piece, first, back⟩ := piece_of_escaping (Json.escaping_escaped c)
      refine ⟨piece :: pieces, ?_, ?_⟩
      · rw [List.flatMap_cons, first, cut, Option.map_some]
      · rw [back, assembled, Option.map_some]
  obtain ⟨pieces, cut, assembled⟩ := parts
  rw [content?, cut, Option.bind_some, assembled]

end Strings

section Numbers

theorem isWhole_ofNat (n : Nat) : isWhole (Text.ofNat n) = true := by
  have leading : ∀ n, 0 < n → (Text.ofNat n).head? ≠ some '0' := by
    intro n
    induction n using Nat.strongRecOn with
    | ind n ih =>
      intro positive
      rw [Text.ofNat]
      by_cases small : n < 10
      · rw [Nat.toDigits_of_lt_base small]
        have digits : ∀ d < 10, 0 < d → [Nat.digitChar d].head? ≠ some '0' := by decide
        exact digits n small positive
      · rw [Nat.toDigits_of_base_le (by decide) (by omega),
          List.head?_append_of_ne_nil _ Nat.toDigits_ne_nil]
        exact ih (n / 10) (by omega) (by omega)
  rcases Nat.eq_zero_or_pos n with rfl | positive
  · rfl
  · simp only [isWhole, Bool.or_eq_true, decide_eq_true_eq]
    exact .inr ⟨Nat.toDigits_ne_nil, leading n positive⟩

theorem number?_ofNat (n : Nat) :
    number? (Text.ofNat n) = some { significand := n, exponent := 0 } := by
  have digits : ∀ c ∈ Text.ofNat n, c.isDigit = true := fun c member =>
    Nat.isDigit_of_mem_toDigits (by decide) (by decide) member
  have unsigned : (Text.ofNat n).head? ≠ some '-' := by
    intro sign
    have digit := digits '-' (List.mem_of_head? sign)
    cases digit
  have value : Nat.ofDigitChars 10 (Text.ofNat n) 0 = n :=
    Nat.ofDigitChars_toDigits (by decide) (by decide)
  have taken := List.takeWhile_eq_self_iff.mpr digits
  have dropped := List.dropWhile_eq_nil_iff.mpr digits
  simp [number?, unsigned, taken, dropped, isWhole_ofNat, places?, power?, value]

theorem ofWord?_ofNat (n : Nat) :
    ofWord? (Text.ofNat n) = some (.number { significand := n, exponent := 0 }) := by
  have differs {word : Text} (unread : Text.digits? word = none) : Text.ofNat n ≠ word := by
    rintro rfl
    rw [Text.digits?_ofNat] at unread
    cases unread
  rw [ofWord?, if_neg (differs rfl), if_neg (differs rfl), if_neg (differs rfl), number?_ofNat,
    Option.map_some]

end Numbers

/-- The tokens are put together to the value, wherever one is due. -/
def Builds (tokens : List JsonToken) (value : JsonValue) : Prop :=
  ∀ stack, tokens.foldlM step? { stage := .value, stack } = some { stage := .complete value, stack }

def BuildsMember (tokens : List JsonToken) (member : Text × JsonValue) : Prop :=
  ∀ members stack, tokens.foldlM step? { stage := .key members, stack } =
    some { stage := .complete member.2, stack := .object members member.1 :: stack }

theorem Builds.string (content : Text) :
    Builds [.quoted (content.flatMap Json.escaped)] (.string content) := by
  intro stack
  simp [step?, begin?, content?_escaped]

theorem Builds.number (n : Nat) :
    Builds [.word (Text.ofNat n)] (.number { significand := n, exponent := 0 }) := by
  intro stack
  simp [step?, begin?, ofWord?_ofNat]

theorem Builds.member {tokens : List JsonToken} {value : JsonValue} (key : Text)
    (built : Builds tokens value) :
    BuildsMember (.quoted (key.flatMap Json.escaped) :: .colon :: tokens) (key, value) := by
  intro members stack
  simp [step?, beginKey?, content?_escaped, built _]

/-- Items one after the other, with a comma between any two and a mark behind the last.  What is
entered for an item holds those before it, and so does what is left behind it. -/
theorem foldlM_items {α : Type} {enter : List α → State} {leave : List α → α → State}
    {pieces : List (List JsonToken)} {items : List α} (close : JsonToken) (finish : List α → State)
    (next : ∀ done item, step? (leave done item) .comma = some (enter (done ++ [item])))
    (last : ∀ done item, step? (leave done item) close = some (finish (done ++ [item])))
    (each : List.Forall₂
      (fun tokens item => ∀ done, tokens.foldlM step? (enter done) = some (leave done item))
      pieces items)
    (nonempty : items ≠ []) (done : List α) :
    (List.intercalate [.comma] pieces ++ [close]).foldlM step? (enter done) =
      some (finish (done ++ items)) := by
  induction each generalizing done with
  | nil => exact absurd rfl nonempty
  | @cons tokens item pieces items first others ih =>
    cases others with
    | nil =>
      rw [List.intercalate_singleton, List.foldlM_append, first]
      simp [last]
    | cons second more =>
      have rest := ih (List.cons_ne_nil _ _) (done ++ [item])
      rw [List.append_assoc, List.singleton_append] at rest
      rw [List.intercalate_cons_cons, List.append_assoc, List.append_assoc, List.foldlM_append,
        first, List.singleton_append]
      simp only [List.foldlM_cons, next, Option.bind_eq_bind, Option.bind_some]
      exact rest

/-- Where the end is allowed besides an item, items are read as where it is not. -/
theorem foldlM_orEnd {tokens : List JsonToken} {due allowed state : State} (close : JsonToken)
    (refused : step? due close = none)
    (agree : ∀ token, token ≠ close → step? allowed token = step? due token)
    (run : tokens.foldlM step? due = some state) (nonempty : tokens ≠ []) :
    tokens.foldlM step? allowed = some state := by
  cases tokens with
  | nil => exact absurd rfl nonempty
  | cons token rest =>
    rw [List.foldlM_cons] at run ⊢
    by_cases same : token = close
    · rw [same, refused] at run
      cases run
    · rw [agree token same, run]

theorem Builds.array {pieces : List (List JsonToken)} {values : List JsonValue}
    (each : List.Forall₂ Builds pieces values) (nonempty : values ≠ []) :
    Builds (.openArray :: List.intercalate [.comma] pieces ++ [.closeArray]) (.array values) := by
  intro stack
  have items : List.Forall₂ (fun tokens value => ∀ done,
      tokens.foldlM step? { stage := .value, stack := .array done :: stack } =
        some { stage := .complete value, stack := .array done :: stack }) pieces values :=
    each.imp fun _ _ built done => built _
  have run := foldlM_items .closeArray
    (fun done => { stage := .complete (.array done), stack })
    (fun done value => rfl) (fun done value => rfl) items nonempty []
  have inside : List.foldlM step? { stage := .elementOrEnd, stack }
      (List.intercalate [.comma] pieces ++ [.closeArray]) =
        some { stage := .complete (.array values), stack } := by
    refine foldlM_orEnd .closeArray rfl ?_ run (by simp)
    intro token other
    exact if_neg other
  exact inside

theorem Builds.object {pieces : List (List JsonToken)} {members : List (Text × JsonValue)}
    (each : List.Forall₂ BuildsMember pieces members) (nonempty : members ≠ []) :
    Builds (.openObject :: List.intercalate [.comma] pieces ++ [.closeObject])
      (.object members) := by
  intro stack
  have items : List.Forall₂ (fun tokens member => ∀ done,
      tokens.foldlM step? { stage := .key done, stack } =
        some { stage := .complete member.2, stack := .object done member.1 :: stack })
      pieces members :=
    each.imp fun _ _ built done => built done stack
  have run := foldlM_items .closeObject
    (fun done => { stage := .complete (.object done), stack })
    (fun done member => rfl) (fun done member => rfl) items nonempty []
  have inside : List.foldlM step? { stage := .keyOrEnd, stack }
      (List.intercalate [.comma] pieces ++ [.closeObject]) =
        some { stage := .complete (.object members), stack } := by
    refine foldlM_orEnd .closeObject rfl ?_ run (by simp)
    intro token other
    exact if_neg other
  exact inside

/-- A text stands for a value if it is cut into tokens that build the value. -/
def Stands (text : Text) (value : JsonValue) : Prop :=
  ∃ tokens, JsonToken.Cuts text tokens ∧ Builds tokens value

theorem Stands.read? {text : Text} {value : JsonValue} (stands : Stands text value) :
    read? text = some value := by
  obtain ⟨tokens, cuts, builds⟩ := stands
  have whole := cuts [] fun c same => nomatch same
  rw [List.append_nil] at whole
  rw [JsonValue.read?, whole, JsonToken.cut]
  simp [JsonToken.ofWord, ofTokens?, builds _, result?]

end JsonValue

namespace Json

open JsonToken (Cuts endsWord_cons_of_mark)
open JsonValue (Builds BuildsMember Stands)

theorem cuts_member {level : Nat} {value : Json} {tokens : List JsonToken} (key : Text)
    (cuts : Cuts (render level value) tokens) :
    Cuts (quote key ++ ": " ++ render level value)
      (.quoted (key.flatMap escaped) :: .colon :: tokens) := by
  have colon : (": " : Text) = [':', ' '] := rfl
  rw [colon, List.append_assoc]
  exact (Cuts.quote key).append (endsWord_cons_of_mark rfl) (List.cons_ne_nil _ _)
    (.mark rfl (.blank rfl cuts))

mutual

theorem stands_render : ∀ (json : Json) (level : Nat), Stands (json.render level) json.toValue
  | .string content, _ => ⟨_, Cuts.quote content, Builds.string content⟩
  | .number n, _ => ⟨_, Cuts.ofNat n, Builds.number n⟩
  | .array [], _ => ⟨[.openArray, .closeArray], .mark rfl (.mark rfl .nil), fun _ => rfl⟩
  | .array (first :: rest), level => by
    obtain ⟨pieces, cuts, builds⟩ := stands_renderElements (first :: rest) (level + 1)
    exact ⟨_, Cuts.enclose level rfl rfl cuts, Builds.array builds (List.cons_ne_nil _ _)⟩
  | .object [], _ => ⟨[.openObject, .closeObject], .mark rfl (.mark rfl .nil), fun _ => rfl⟩
  | .object (first :: rest), level => by
    obtain ⟨pieces, cuts, builds⟩ := stands_renderMembers (first :: rest) (level + 1)
    exact ⟨_, Cuts.enclose level rfl rfl cuts, Builds.object builds (List.cons_ne_nil _ _)⟩

theorem stands_renderElements : ∀ (elements : List Json) (level : Nat), ∃ pieces,
    List.Forall₂ Cuts (renderElements level elements) pieces ∧
      List.Forall₂ Builds pieces (elementValues elements)
  | [], _ => ⟨[], .nil, .nil⟩
  | element :: rest, level => by
    obtain ⟨tokens, first, built⟩ := stands_render element level
    obtain ⟨pieces, cuts, builds⟩ := stands_renderElements rest level
    exact ⟨tokens :: pieces, .cons first cuts, .cons built builds⟩

theorem stands_renderMembers : ∀ (members : List (Text × Json)) (level : Nat), ∃ pieces,
    List.Forall₂ Cuts (renderMembers level members) pieces ∧
      List.Forall₂ BuildsMember pieces (memberValues members)
  | [], _ => ⟨[], .nil, .nil⟩
  | (key, value) :: rest, level => by
    obtain ⟨tokens, first, built⟩ := stands_render value level
    obtain ⟨pieces, cuts, builds⟩ := stands_renderMembers rest level
    exact ⟨_ :: pieces, .cons (cuts_member key first) cuts, .cons (built.member key) builds⟩

end

/-- Rendering loses nothing. -/
theorem read?_render (json : Json) (level : Nat) :
    JsonValue.read? (json.render level) = some json.toValue :=
  (json.stands_render level).read?

end Json

end DockerfileLint
