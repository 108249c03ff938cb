import DockerfileLint.Toml.Document
import Mathlib

/-! Documents are well-formed however they are written: no table has a key twice, and integers fit
64 bits.  Readers yield only well-formed values, and taking in an entry keeps a draft so. -/

namespace DockerfileLint.Toml

/-- Keys are distinct and integers fit 64 bits, here and in all values inside. -/
inductive Value.Wellformed : Value → Prop where
  | string (content : Text) : Wellformed (.string content)
  | integer {number : Int} (inRange : fits number = true) : Wellformed (.integer number)
  | float (number : Float) : Wellformed (.float number)
  | boolean (truth : Bool) : Wellformed (.boolean truth)
  | dateTime : Wellformed .dateTime
  | array {elements : List Value} (each : ∀ element ∈ elements, Wellformed element) :
      Wellformed (.array elements)
  | table {entries : List (Text × Value)} (distinct : (entries.map Prod.fst).Nodup)
      (each : ∀ entry ∈ entries, Wellformed entry.2) : Wellformed (.table entries)

namespace Value.Wellformed

variable {entries : List (Text × Value)} {key : Text} {value : Value}

theorem nodup_keys (sound : (Value.table entries).Wellformed) :
    (entries.map Prod.fst).Nodup := by
  cases sound with
  | table distinct _ => exact distinct

theorem of_mem (sound : (Value.table entries).Wellformed) (member : (key, value) ∈ entries) :
    value.Wellformed := by
  cases sound with
  | table _ each => exact each _ member

end Value.Wellformed

theorem natAbs_lt_of_fits {number : Int} (inRange : fits number = true) :
    number.natAbs < UInt64.size := by
  rw [fits, Bool.and_eq_true, decide_eq_true_iff, decide_eq_true_iff] at inRange
  have least : Int64.minValue.toInt = -9223372036854775808 := by decide
  have most : Int64.maxValue.toInt = 9223372036854775807 := by decide
  have size : UInt64.size = 18446744073709551616 := rfl
  omega

mutual

inductive Node.Wellformed : Node → Prop where
  | value {content : Value} (sound : content.Wellformed) : Node.Wellformed (.value content)
  | table (origin : TableOrigin) {entries : List (Text × Node)} (sound : Table.Wellformed entries) :
      Node.Wellformed (.table origin entries)
  | tables {elements : List (List (Text × Node))}
      (each : ∀ element ∈ elements, Table.Wellformed element) : Node.Wellformed (.tables elements)

inductive Table.Wellformed : List (Text × Node) → Prop where
  | intro {entries : List (Text × Node)} (distinct : (entries.map Prod.fst).Nodup)
      (each : ∀ entry ∈ entries, Node.Wellformed entry.2) : Table.Wellformed entries

end

section Lookup

variable {α : Type} {entries : List (Text × α)} {key : Text} {content : α}

theorem mem_of_lookup (found : entries.lookup key = some content) : (key, content) ∈ entries := by
  obtain ⟨before, after, rfl, _⟩ := List.lookup_eq_some_iff.mp found
  simp

theorem not_mem_keys_of_lookup (absent : entries.lookup key = none) :
    key ∉ entries.map Prod.fst := by
  intro present
  obtain ⟨entry, member, rfl⟩ := List.mem_map.mp present
  simpa using List.lookup_eq_none_iff.mp absent entry member

/-- Where keys are distinct, looking one up finds all that stands under it. -/
theorem lookup_eq_some_iff_mem (distinct : (entries.map Prod.fst).Nodup) :
    entries.lookup key = some content ↔ (key, content) ∈ entries := by
  refine ⟨mem_of_lookup, fun member => ?_⟩
  induction entries with
  | nil => cases member
  | cons head rest ih =>
    obtain ⟨absent, distinct⟩ := List.nodup_cons.mp distinct
    rcases List.mem_cons.mp member with rfl | member
    · exact List.lookup_cons_self
    · have differ : key ≠ head.1 := by
        rintro rfl
        exact absent (List.mem_map.mpr ⟨_, member, rfl⟩)
      rw [List.lookup_cons, beq_eq_false_iff_ne.mpr differ]
      exact ih distinct member

end Lookup

namespace Table

variable {table result : Table} {key : Text} {node : Node}

theorem Wellformed.nil : Wellformed [] := ⟨List.nodup_nil, nofun⟩

theorem Wellformed.of_lookup (sound : Wellformed table) (found : table.lookup key = some node) :
    node.Wellformed := by
  obtain ⟨_, each⟩ := sound
  exact each _ (mem_of_lookup found)

theorem Wellformed.append (sound : Wellformed table) (fresh : table.lookup key = none)
    (added : node.Wellformed) : Wellformed (table ++ [(key, node)]) := by
  obtain ⟨distinct, each⟩ := sound
  constructor
  · rw [List.map_append, List.map_singleton, List.nodup_append]
    refine ⟨distinct, by simp, ?_⟩
    intro other member same single equal
    obtain rfl := List.mem_singleton.mp single
    exact not_mem_keys_of_lookup fresh (equal ▸ member)
  · intro entry member
    rcases List.mem_append.mp member with old | new
    · exact each entry old
    · obtain rfl := List.mem_singleton.mp new
      exact added

theorem Wellformed.replace (sound : Wellformed table) (changed : node.Wellformed) :
    Wellformed (table.replace key node) := by
  obtain ⟨distinct, each⟩ := sound
  have keys : (table.replace key node).map Prod.fst = table.map Prod.fst := by
    rw [Table.replace, List.map_map]
    refine List.map_congr_left fun entry _ => ?_
    by_cases same : entry.1 = key
    · simp [same]
    · simp [same]
  constructor
  · rwa [keys]
  · intro entry member
    obtain ⟨old, present, rfl⟩ := List.mem_map.mp member
    by_cases same : old.1 = key
    · simpa [same] using changed
    · simpa [same] using each old present

theorem Wellformed.insertPair {accepts : Bool} {path : List Text} {value : Value}
    (sound : Wellformed table) (given : value.Wellformed)
    (inserted : insertPair accepts path value table = some result) : Wellformed result := by
  induction accepts, path, value, table using Table.insertPair.induct generalizing result with
  | case1 => cases inserted
  | case2 accepts key value table free =>
    rw [Table.insertPair, if_pos free] at inserted
    cases inserted
    exact sound.append (Option.isNone_iff_eq_none.mp free.2) (.value given)
  | case3 accepts key value table taken =>
    rw [Table.insertPair, if_neg taken] at inserted
    cases inserted
  | case4 accepts key next rest value table absent ih =>
    simp only [Table.insertPair, absent, Option.bind_eq_bind, Option.bind_eq_some_iff] at inserted
    obtain ⟨inner, inside, equal⟩ := inserted
    cases equal
    exact sound.append absent (.table _ (ih .nil given inside))
  | case5 accepts key next rest value table inner found =>
    simp [Table.insertPair, found] at inserted
  | case6 accepts key next rest value table origin inner found free ih =>
    simp only [Table.insertPair, found, free, if_false, Option.bind_eq_bind,
      Option.bind_eq_some_iff] at inserted
    obtain ⟨changed, inside, equal⟩ := inserted
    cases equal
    cases sound.of_lookup found with
    | table _ innerSound => exact sound.replace (.table _ (ih innerSound given inside))
  | case7 accepts key next rest value table other noTable found =>
    cases other with
    | table origin inner => exact absurd rfl (noTable origin inner)
    | value content => simp [Table.insertPair, found] at inserted
    | tables elements => simp [Table.insertPair, found] at inserted

/-- What changes the table at the end of a path keeps the tables around it. -/
theorem Wellformed.descend {change : Table → Option Table} {path : List Text}
    (keeps : ∀ table result, Wellformed table → change table = some result → Wellformed result)
    (sound : Wellformed table) (changed : descend change path table = some result) :
    Wellformed result := by
  induction path, table using Table.descend.induct generalizing result with
  | case1 table => exact keeps table result sound changed
  | case2 key rest table absent ih =>
    simp only [Table.descend, absent, Option.bind_eq_bind, Option.bind_eq_some_iff] at changed
    obtain ⟨inner, inside, equal⟩ := changed
    cases equal
    exact sound.append absent (.table _ (ih .nil inside))
  | case3 key rest table origin inner found ih =>
    simp only [Table.descend, found, Option.bind_eq_bind, Option.bind_eq_some_iff] at changed
    obtain ⟨inner, inside, equal⟩ := changed
    cases equal
    cases sound.of_lookup found with
    | table _ innerSound => exact sound.replace (.table _ (ih innerSound inside))
  | case4 key rest table elements found ih =>
    simp only [Table.descend, found, Option.bind_eq_bind, Option.bind_eq_some_iff] at changed
    obtain ⟨last, isLast, opened, inside, equal⟩ := changed
    cases equal
    cases sound.of_lookup found with
    | tables each =>
      have present : last ∈ elements := List.mem_of_getLast? isLast
      refine sound.replace (.tables fun element member => ?_)
      rcases List.mem_append.mp member with old | new
      · exact each element (List.dropLast_subset elements old)
      · obtain rfl := List.mem_singleton.mp new
        exact ih last (each last present) inside
  | case5 key rest table value found =>
    simp [Table.descend, found] at changed

theorem Wellformed.openTable (sound : Wellformed table)
    (opened : openTable key table = some result) : Wellformed result := by
  revert opened
  fun_cases Table.openTable key table with
  | case1 absent =>
    rintro ⟨⟩
    exact sound.append absent (.table _ .nil)
  | case2 inner found =>
    rintro ⟨⟩
    cases sound.of_lookup found with
    | table _ innerSound => exact sound.replace (.table _ innerSound)
  | case3 => nofun

theorem Wellformed.openElement (sound : Wellformed table)
    (opened : openElement key table = some result) : Wellformed result := by
  revert opened
  fun_cases Table.openElement key table with
  | case1 absent =>
    rintro ⟨⟩
    refine sound.append absent (.tables fun element member => ?_)
    obtain rfl := List.mem_singleton.mp member
    exact .nil
  | case2 elements found =>
    rintro ⟨⟩
    cases sound.of_lookup found with
    | tables each =>
      refine sound.replace (.tables fun element member => ?_)
      rcases List.mem_append.mp member with old | new
      · exact each element old
      · obtain rfl := List.mem_singleton.mp new
        exact .nil
  | case3 => nofun

end Table

theorem entriesToValues_eq_map (entries : List (Text × Node)) :
    Node.entriesToValues entries = entries.map fun entry => (entry.1, entry.2.toValue) := by
  induction entries with
  | nil => rfl
  | cons entry rest ih => rw [Node.entriesToValues, ih, List.map_cons]

theorem elementsToValues_eq_map (elements : List (List (Text × Node))) :
    Node.elementsToValues elements =
      elements.map fun entries => .table (Node.entriesToValues entries) := by
  induction elements with
  | nil => rfl
  | cons entries rest ih => rw [Node.elementsToValues, ih, List.map_cons]

mutual

theorem Node.Wellformed.toValue {node : Node} : node.Wellformed → node.toValue.Wellformed
  | .value sound => by rwa [Node.toValue]
  | .table _ sound => by
    rw [Node.toValue]
    exact sound.toValue
  | .tables each => by
    rw [Node.toValue, elementsToValues_eq_map]
    refine .array fun element member => ?_
    obtain ⟨entries, present, rfl⟩ := List.mem_map.mp member
    exact (each entries present).toValue

theorem Table.Wellformed.toValue {table : Table} :
    Table.Wellformed table → (Value.table (Node.entriesToValues table)).Wellformed
  | .intro distinct each => by
    rw [entriesToValues_eq_map]
    refine .table ?_ fun entry member => ?_
    · rwa [List.map_map]
    · obtain ⟨old, present, rfl⟩ := List.mem_map.mp member
      exact (each old present).toValue

end

/-- Whatever the reader takes off a text satisfies the condition. -/
def Yields {α : Type} (condition : α → Prop) (reader : Reader α) : Prop :=
  ∀ text value rest, reader text = some (value, rest) → condition value

namespace Yields

variable {α β : Type} {condition : α → Prop} {other : β → Prop} {reader : Reader α}

theorem trivial (reader : Reader α) : Yields (fun _ => True) reader := fun _ _ _ _ => .intro

theorem pure {value : α} (holds : condition value) :
    Yields condition (Pure.pure value : Reader α) := by
  intro text value rest read
  cases read
  exact holds

theorem bind {next : α → Reader β} (first : Yields condition reader)
    (each : ∀ value, condition value → Yields other (next value)) :
    Yields other (reader >>= next) := by
  intro text value rest read
  obtain ⟨⟨middle, after⟩, readFirst, readNext⟩ := Option.bind_eq_some_iff.mp read
  exact each middle (first _ _ _ readFirst) after value rest readNext

/-- What a reader only reads over does not matter. -/
theorem after {next : α → Reader β} (each : ∀ value, Yields other (next value)) :
    Yields other (reader >>= next) :=
  bind (trivial reader) fun value _ => each value

theorem orElse {alternative : Reader α} (left : Yields condition reader)
    (right : Yields condition alternative) : Yields condition (reader <|> alternative) := by
  intro text value rest read
  have either : reader text = some (value, rest) ∨ alternative text = some (value, rest) := by
    have read : (reader text <|> alternative text) = some (value, rest) := read
    cases taken : reader text with
    | none => exact .inr (by simpa [taken] using read)
    | some result => exact .inl (by simpa [taken] using read)
  cases either with
  | inl read => exact left _ _ _ read
  | inr read => exact right _ _ _ read

theorem guarded {test : Prop} [Decidable test] :
    Yields (fun _ => test) (guard test : Reader Unit) := by
  intro text value rest read
  by_cases holds : test
  · exact holds
  · rw [guard, if_neg holds] at read
    cases read

theorem lift {made : Option α} (each : ∀ value, made = some value → condition value) :
    Yields condition (liftM made : Reader α) := by
  intro text value rest read
  obtain ⟨content, present, equal⟩ := Option.bind_eq_some_iff.mp read
  cases equal
  exact each _ present

theorem map {image : α → β} (inner : Yields condition reader)
    (each : ∀ value, condition value → other (image value)) : Yields other (image <$> reader) := by
  rw [map_eq_pure_bind]
  exact bind inner fun value holds => pure (each value holds)

theorem seqRight {before : Reader β} (last : Yields condition reader) :
    Yields condition (before *> reader) := by
  rw [seqRight_eq_bind]
  exact after fun _ => last

theorem seqLeft {behind : Reader β} (first : Yields condition reader) :
    Yields condition (reader <* behind) := by
  rw [seqLeft_eq_bind]
  exact bind first fun value holds => after fun _ => pure holds

theorem manyWithin (fuel : Nat) (item : Yields condition reader) :
    Yields (fun items => ∀ value ∈ items, condition value) (Reader.manyWithin fuel reader) := by
  induction fuel with
  | zero => exact pure nofun
  | succ fuel ih =>
    refine orElse (bind item fun first holds => bind ih fun others each => pure ?_) (pure nofun)
    intro value member
    rcases List.mem_cons.mp member with rfl | member
    · exact holds
    · exact each value member

theorem many (item : Yields condition reader) :
    Yields (fun items => ∀ value ∈ items, condition value) (Reader.many reader) :=
  fun text => manyWithin text.length item text

theorem separated {separator : Reader β} (item : Yields condition reader) :
    Yields (fun items => ∀ value ∈ items, condition value) (Reader.separated reader separator) := by
  refine orElse (bind item fun first holds => bind (many (seqRight item))
    fun others each => pure ?_) (pure nofun)
  intro value member
  rcases List.mem_cons.mp member with rfl | member
  · exact holds
  · exact each value member

end Yields

open Yields (after)

theorem yields_integer : Yields (fun number => fits number = true) integer := by
  have based : ∀ mark base, Yields (fun number => fits number = true) (basedInteger mark base) :=
    fun mark base => after fun _ => after fun digits =>
      .bind .guarded fun _ inRange => .pure inRange
  have decimal : Yields (fun number => fits number = true) decimalInteger :=
    after fun negative => after fun digits => .bind .guarded fun _ inRange => .pure inRange
  exact .orElse (based _ _) (.orElse (based _ _) (.orElse (based _ _) decimal))

theorem yields_number : Yields Value.Wellformed number :=
  .orElse (.map (.trivial _) fun number _ => .float number)
    (.map yields_integer fun _ inRange => .integer inRange)

theorem yields_scalar : Yields Value.Wellformed scalar :=
  .orElse (.map (.trivial _) fun content _ => .string content)
    (.orElse (after fun _ => .pure .dateTime)
      (.orElse yields_number
        (.orElse (after fun _ => .pure (.boolean _)) (after fun _ => .pure (.boolean _)))))

theorem yields_pair {reader : Reader Value} (inner : Yields Value.Wellformed reader) :
    Yields (fun pair => pair.value.Wellformed) (pair reader) :=
  after fun _ => after fun _ => after fun _ => .bind inner fun _ sound => .pure sound

/-- What every step keeps holds after a run of steps that does not fail. -/
theorem foldlM_keeps {α σ : Type} (holds : σ → Prop) {step : σ → α → Option σ} {items : List α}
    {start last : σ}
    (keeps : ∀ item ∈ items, ∀ state next, holds state → step state item = some next → holds next)
    (first : holds start) (run : items.foldlM step start = some last) : holds last := by
  induction items generalizing start with
  | nil =>
    cases run
    exact first
  | cons item rest ih =>
    rw [List.foldlM_cons] at run
    obtain ⟨state, stepped, run⟩ := Option.bind_eq_some_iff.mp run
    exact ih (fun other member => keeps other (.tail _ member))
      (keeps item (.head _) start state first stepped) run

theorem tableOfPairs_wellformed {pairs : List Pair} {value : Value}
    (each : ∀ pair ∈ pairs, pair.value.Wellformed) (made : tableOfPairs pairs = some value) :
    value.Wellformed := by
  obtain ⟨table, inserted, equal⟩ := Option.bind_eq_some_iff.mp made
  cases equal
  have sound : Table.Wellformed table :=
    foldlM_keeps _ (fun pair member state next sound inserted =>
      sound.insertPair (each pair member) inserted) .nil inserted
  exact sound.toValue

theorem yields_arrayOf {element : Reader Value} (inner : Yields Value.Wellformed element) :
    Yields Value.Wellformed (arrayOf element) := by
  refine after fun _ => after fun _ => .bind (.separated (.seqLeft (.seqRight inner)))
    fun elements each => ?_
  have closed : Yields Value.Wellformed (do
      Reader.gap
      let _ ← Reader.char ']'
      pure (.array elements)) :=
    after fun _ => after fun _ => .pure (.array each)
  dsimp only
  split
  · exact after fun _ => closed
  · exact closed

theorem yields_inlineTableOf {element : Reader Value} (inner : Yields Value.Wellformed element) :
    Yields Value.Wellformed (inlineTableOf element) :=
  after fun _ => .bind (.separated (.seqLeft (yields_pair inner))) fun _ each =>
    after fun _ => after fun _ => .lift fun _ made => tableOfPairs_wellformed each made

theorem yields_valueWithin (depth : Nat) : Yields Value.Wellformed (valueWithin depth) := by
  induction depth with
  | zero => exact yields_scalar
  | succ depth ih =>
    exact .orElse yields_scalar (.orElse (yields_arrayOf ih) (yields_inlineTableOf ih))

inductive Entry.Wellformed : Entry → Prop where
  | pair {given : Pair} (sound : given.value.Wellformed) : Wellformed (.pair given)
  | header (key : List Text) : Wellformed (.header key)
  | elementHeader (key : List Text) : Wellformed (.elementHeader key)

theorem yields_header : Yields Entry.Wellformed header :=
  .orElse (after fun _ => after fun key => after fun _ => .pure (.elementHeader key))
    (after fun _ => after fun key => after fun _ => .pure (.header key))

theorem yields_line : Yields (fun entry => ∀ given ∈ entry, Entry.Wellformed given) line := by
  have pairs : Yields Entry.Wellformed (Entry.pair <$> pair value) :=
    .map (yields_pair (yields_valueWithin _)) fun _ sound => .pair sound
  refine .orElse (after fun _ => .pure nofun) ?_
  refine .orElse (after fun _ => after fun _ => .pure nofun) ?_
  refine .bind (.orElse yields_header pairs) fun entry sound => after fun _ => .pure ?_
  rintro given ⟨⟩
  exact sound

theorem yields_entries : Yields (fun given => ∀ entry ∈ given, Entry.Wellformed entry) entries := by
  refine after fun _ => after fun _ => .bind (.many (.seqLeft yields_line))
    fun lines each => .pure ?_
  intro entry member
  obtain ⟨line, present, given⟩ := List.mem_filterMap.mp member
  exact each line present entry given

theorem Draft.add_wellformed {draft next : Draft} {entry : Entry} (given : entry.Wellformed)
    (sound : Table.Wellformed draft.root) (added : draft.add entry = some next) :
    Table.Wellformed next.root := by
  cases given with
  | pair valid =>
    obtain ⟨root, changed, equal⟩ := Option.bind_eq_some_iff.mp added
    cases equal
    exact sound.descend (fun _ _ sound inserted => sound.insertPair valid inserted) changed
  | header key =>
    obtain ⟨last, _, added⟩ := Option.bind_eq_some_iff.mp added
    obtain ⟨root, changed, equal⟩ := Option.bind_eq_some_iff.mp added
    cases equal
    exact sound.descend (fun _ _ sound opened => sound.openTable opened) changed
  | elementHeader key =>
    obtain ⟨last, _, added⟩ := Option.bind_eq_some_iff.mp added
    obtain ⟨root, changed, equal⟩ := Option.bind_eq_some_iff.mp added
    cases equal
    exact sound.descend (fun _ _ sound opened => sound.openElement opened) changed

/-- A document that can be read gives no key twice in a table and no integer beyond 64 bits. -/
theorem read?_wellformed {document : Text} {found : List (Text × Value)}
    (read : read? document = some found) : (Value.table found).Wellformed := by
  obtain ⟨given, readEntries, drafted⟩ := Option.bind_eq_some_iff.mp read
  obtain ⟨draft, added, equal⟩ := Option.bind_eq_some_iff.mp drafted
  cases equal
  have each : ∀ entry ∈ given, Entry.Wellformed entry := by
    revert readEntries
    fun_cases Reader.onWhole? with
    | case1 found whole =>
      rintro ⟨⟩
      exact yields_entries _ _ _ whole
    | case2 => nofun
  have sound : Table.Wellformed draft.root :=
    foldlM_keeps (fun draft => Table.Wellformed draft.root)
      (fun entry member _ _ sound added => Draft.add_wellformed (each entry member) sound added)
      .nil added
  exact sound.toValue

end DockerfileLint.Toml
