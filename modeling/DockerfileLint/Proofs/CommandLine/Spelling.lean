import DockerfileLint.CommandLine.Run
import Mathlib.Data.List.Forall2

/-! Arguments that ask for different things may be given in any order and in any of their spellings:
each is read on its own, and what a run is asked to do depends on the things alone.  To ask for one
thing twice is always refused. -/

namespace DockerfileLint.CommandLine

variable {arguments next : Arguments} {item other : Item} {items : List Item}
variable {words : List Text} {value : Text}

def ValueOption.name : ValueOption → Text
  | .config => "config"
  | .image => "image"
  | .format => "format"

/-- A value that can stand behind an option in every way: as an argument of its own, and right behind
the option with an equals sign or without. -/
structure ValueOption.Takes (option : ValueOption) (value : Text) : Prop where
  begun : value ≠ []
  undashed : value.head? ≠ some '-'
  unequalled : value.head? ≠ some '='
  known : option = .format → value = ("text" : Text) ∨ value = ("json" : Text)

/-- The ways to ask for one thing. -/
inductive Spells : Item → List Text → Prop where
  | path {path : Text} (begun : path ≠ []) (undashed : path.head? ≠ some '-') :
      Spells (.dockerfile path) [path]
  | security : Spells .security ["--security"]
  | noColor : Spells .noColor ["--no-color"]
  | verbose : Spells .verbose ["--verbose"]
  | verboseShort : Spells .verbose ["-v"]
  | apart (option : ValueOption) {value : Text} (takes : option.Takes value) :
      Spells (option.item value) ["--" ++ option.name, value]
  | joined (option : ValueOption) {value : Text} (takes : option.Takes value) :
      Spells (option.item value) ["--" ++ option.name ++ "=" ++ value]
  | configApart {value : Text} (takes : ValueOption.config.Takes value) :
      Spells (.config value) ["-c", value]
  | configJoined {value : Text} (takes : ValueOption.config.Takes value) :
      Spells (.config value) ["-c" ++ value]
  | configEquals {value : Text} (takes : ValueOption.config.Takes value) :
      Spells (.config value) ["-c=" ++ value]

theorem items_awaiting {option : ValueOption} (takes : option.Takes value) (rest : List Text) :
    CommandLine.items (some option) (value :: rest) =
      option.item value :: CommandLine.items none rest := by
  have fits : isValue value = true := by simp [isValue, takes.undashed]
  exact if_pos fits

/-- A spelling is read as what it asks for, and takes nothing of what follows. -/
theorem Spells.items_append (spells : Spells item words) (rest : List Text) :
    CommandLine.items none (words ++ rest) = item :: CommandLine.items none rest := by
  cases spells with
  | @path path begun undashed =>
    obtain ⟨c, path, rfl⟩ := List.exists_cons_of_ne_nil begun
    have plain : c ≠ '-' := by simpa using undashed
    simp [CommandLine.items, readArgument, plain]
  | security => rfl
  | noColor => rfl
  | verbose => rfl
  | verboseShort => rfl
  | apart option takes => cases option <;> exact items_awaiting takes rest
  | joined option takes => cases option <;> rfl
  | configApart takes => exact items_awaiting takes rest
  | @configJoined value takes =>
    obtain ⟨c, value, rfl⟩ := List.exists_cons_of_ne_nil takes.begun
    have plain : c ≠ '=' := by simpa using takes.unequalled
    simp [CommandLine.items, readArgument, readShort, plain]
  | configEquals takes => rfl

/-- Spellings in a row are read one by one. -/
theorem items_flatten {pieces : List (List Text)} (spelled : List.Forall₂ Spells items pieces) :
    CommandLine.items none pieces.flatten = items := by
  induction spelled with
  | nil => rfl
  | cons here _ ih => rw [List.flatten_cons, here.items_append, ih]

/-- An item without its value, which is what may be asked for only once. -/
def Item.bare : Item → Item
  | .dockerfile _ => .dockerfile []
  | .config _ => .config []
  | .image _ => .image []
  | .format _ => .format []
  | item => item

def Format.name : Format → Text
  | .text => "text"
  | .json => "json"

theorem Format.name_injective : Function.Injective Format.name := by
  intro left right same
  cases left with
  | text =>
    cases right with
    | text => rfl
    | json => cases same
  | json =>
    cases right with
    | text => cases same
    | json => rfl

/-- What arguments ask for. -/
def Arguments.AsksFor (arguments : Arguments) : Item → Prop
  | .dockerfile path => arguments.dockerfile = some path
  | .security => arguments.security = true
  | .config path => arguments.config = some path
  | .image name => arguments.image = some name
  | .format name => arguments.format.map Format.name = some name
  | .noColor => arguments.noColor = true
  | .verbose => arguments.verbose = true
  | .help => False
  | .version => False
  | .fault => False

/-- An item that is taken in if nothing like it was taken in before. -/
def Item.IsSound : Item → Prop
  | .dockerfile path => path ≠ []
  | .config path => path ≠ []
  | .format name => name = ("text" : Text) ∨ name = ("json" : Text)
  | .help => False
  | .version => False
  | .fault => False
  | _ => True

theorem Spells.isSound (spells : Spells item words) : item.IsSound := by
  cases spells with
  | path begun _ => exact begun
  | apart option takes =>
    cases option with
    | config => exact takes.begun
    | image => trivial
    | format => exact takes.known rfl
  | joined option takes =>
    cases option with
    | config => exact takes.begun
    | image => trivial
    | format => exact takes.known rfl
  | configApart takes => exact takes.begun
  | configJoined takes => exact takes.begun
  | configEquals takes => exact takes.begun
  | _ => trivial

theorem Format.exists_ofName? {name : Text}
    (known : name = ("text" : Text) ∨ name = ("json" : Text)) :
    ∃ format, Format.ofName? name = some format ∧ format.name = name := by
  rcases known with rfl | rfl
  · exact ⟨.text, rfl, rfl⟩
  · exact ⟨.json, rfl, rfl⟩

/-- Nothing is taken in twice. -/
theorem add_eq_none (same : other.bare = item.bare) (asked : arguments.AsksFor other) :
    arguments.add item = none := by
  cases item with
  | format name =>
    cases other <;> simp_all [Item.bare, Arguments.AsksFor, Arguments.add]
    obtain ⟨format, given, _⟩ := asked
    rw [given]
  | _ => cases other <;> simp_all [Item.bare, Arguments.AsksFor, Arguments.add]

/-- Whatever is sound and new is taken in, and nothing else changes. -/
theorem exists_add_eq_some (sound : item.IsSound)
    (unasked : ∀ other, other.bare = item.bare → ¬arguments.AsksFor other) :
    ∃ next, arguments.add item = some next ∧
      ∀ other, next.AsksFor other ↔ item = other ∨ arguments.AsksFor other := by
  cases item with
  | dockerfile path =>
    have free : arguments.dockerfile = none :=
      Option.eq_none_iff_forall_ne_some.mpr fun given => unasked (.dockerfile given) rfl
    refine ⟨{ arguments with dockerfile := some path }, if_pos ⟨free, sound⟩, fun other => ?_⟩
    cases other <;> simp [Arguments.AsksFor, free]
  | security =>
    have free : arguments.security = false := eq_false_of_ne_true (unasked .security rfl)
    refine ⟨{ arguments with security := true }, by simp [Arguments.add, free], fun other => ?_⟩
    cases other <;> simp [Arguments.AsksFor, free]
  | config path =>
    have free : arguments.config = none :=
      Option.eq_none_iff_forall_ne_some.mpr fun given => unasked (.config given) rfl
    refine ⟨{ arguments with config := some path }, if_pos ⟨free, sound⟩, fun other => ?_⟩
    cases other <;> simp [Arguments.AsksFor, free]
  | image name =>
    have free : arguments.image = none :=
      Option.eq_none_iff_forall_ne_some.mpr fun given => unasked (.image given) rfl
    refine ⟨{ arguments with image := some name }, if_pos free, fun other => ?_⟩
    cases other <;> simp [Arguments.AsksFor, free]
  | format name =>
    have free : arguments.format = none :=
      Option.eq_none_iff_forall_ne_some.mpr fun given same =>
        unasked (.format given.name) rfl (congrArg (Option.map Format.name) same)
    obtain ⟨format, known, named⟩ := Format.exists_ofName? sound
    refine ⟨{ arguments with format := some format }, by simp [Arguments.add, free, known],
      fun other => ?_⟩
    cases other <;> simp [Arguments.AsksFor, free, named]
  | noColor =>
    have free : arguments.noColor = false := eq_false_of_ne_true (unasked .noColor rfl)
    refine ⟨{ arguments with noColor := true }, by simp [Arguments.add, free], fun other => ?_⟩
    cases other <;> simp [Arguments.AsksFor, free]
  | verbose =>
    have free : arguments.verbose = false := eq_false_of_ne_true (unasked .verbose rfl)
    refine ⟨{ arguments with verbose := true }, by simp [Arguments.add, free], fun other => ?_⟩
    cases other <;> simp [Arguments.AsksFor, free]
  | help => cases sound
  | version => cases sound
  | fault => cases sound

/-- No item asks for the same as another one, or for what arguments ask for already. -/
structure Unrepeated (arguments : Arguments) (items : List Item) : Prop where
  apart : (items.map Item.bare).Nodup
  new : ∀ item ∈ items, ∀ other, other.bare = item.bare → ¬arguments.AsksFor other

theorem unrepeated_cons_iff (added : arguments.add item = some next)
    (asks : ∀ other, next.AsksFor other ↔ item = other ∨ arguments.AsksFor other) :
    Unrepeated arguments (item :: items) ↔ Unrepeated next items := by
  constructor
  · rintro ⟨apart, new⟩
    obtain ⟨unlike, apart⟩ := List.nodup_cons.mp apart
    refine ⟨apart, fun later member other same asked => ?_⟩
    rcases (asks other).mp asked with rfl | before
    · exact unlike (same ▸ List.mem_map_of_mem member)
    · exact new later (List.mem_cons_of_mem item member) other same before
  · rintro ⟨apart, new⟩
    have unlike : item.bare ∉ items.map Item.bare := by
      intro repeated
      obtain ⟨later, member, same⟩ := List.mem_map.mp repeated
      exact new later member item same.symm ((asks item).mpr (.inl rfl))
    refine ⟨List.nodup_cons.mpr ⟨unlike, apart⟩, fun later member other same asked => ?_⟩
    rcases List.mem_cons.mp member with rfl | member
    · rw [add_eq_none same asked] at added
      cases added
    · exact new later member other same ((asks other).mpr (.inr asked))

theorem ofItems_cons (sound : item.IsSound) (items : List Item) :
    Request.ofItems arguments (item :: items) =
      match arguments.add item with
      | some next => Request.ofItems next items
      | none => .refused := by
  cases item with
  | help => cases sound
  | version => cases sound
  | _ => rfl

/-- Items that are taken in one after the other add up, unless one of them is a repetition. -/
theorem ofItems_eq (arguments : Arguments) (sound : ∀ item ∈ items, item.IsSound) :
    (Unrepeated arguments items ∧ ∃ final, Request.ofItems arguments items = .lint final ∧
        ∀ item, final.AsksFor item ↔ item ∈ items ∨ arguments.AsksFor item) ∨
      ¬Unrepeated arguments items ∧ Request.ofItems arguments items = .refused := by
  induction items generalizing arguments with
  | nil => exact .inl ⟨⟨.nil, List.forall_mem_nil _⟩, arguments, rfl, by simp⟩
  | cons item items ih =>
    obtain ⟨soundItem, soundRest⟩ := List.forall_mem_cons.mp sound
    rw [ofItems_cons soundItem]
    by_cases unasked : ∀ other, other.bare = item.bare → ¬arguments.AsksFor other
    · obtain ⟨next, added, asks⟩ := exists_add_eq_some soundItem unasked
      rw [added, unrepeated_cons_iff added asks]
      rcases ih next soundRest with ⟨unrepeated, final, lints, sum⟩ | refused
      · refine .inl ⟨unrepeated, final, lints, fun other => ?_⟩
        rw [sum, asks, List.mem_cons, eq_comm, or_left_comm, or_assoc]
      · exact .inr refused
    · obtain ⟨other, same, asked⟩ : ∃ other, other.bare = item.bare ∧ arguments.AsksFor other := by
        simpa using unasked
      rw [add_eq_none same asked]
      exact .inr ⟨fun unrepeated => unrepeated.new item List.mem_cons_self other same asked, rfl⟩

/-- Arguments are nothing but what they ask for. -/
theorem Arguments.ext_asksFor {left right : Arguments}
    (same : ∀ item, left.AsksFor item ↔ right.AsksFor item) : left = right := by
  have format : left.format = right.format :=
    Option.map_injective Format.name_injective (Option.ext fun name => same (.format name))
  cases left
  cases right
  congr
  · exact Option.ext fun path => same (.dockerfile path)
  · exact Bool.eq_iff_iff.mpr (same .security)
  · exact Option.ext fun path => same (.config path)
  · exact Option.ext fun name => same (.image name)
  · exact Bool.eq_iff_iff.mpr (same .noColor)
  · exact Bool.eq_iff_iff.mpr (same .verbose)

/-- What is read off spellings in a row. -/
theorem ofArguments_flatten {pieces : List (List Text)}
    (spelled : List.Forall₂ Spells items pieces) :
    ((items.map Item.bare).Nodup ∧
        ∃ arguments, Request.ofArguments pieces.flatten = .lint arguments ∧
          ∀ item, arguments.AsksFor item ↔ item ∈ items) ∨
      ¬(items.map Item.bare).Nodup ∧ Request.ofArguments pieces.flatten = .refused := by
  have sound : ∀ item ∈ items, item.IsSound := by
    induction spelled with
    | nil => exact List.forall_mem_nil _
    | cons here _ ih => exact List.forall_mem_cons.mpr ⟨here.isSound, ih⟩
  have nothing (item : Item) : ¬Arguments.AsksFor {} item := by
    cases item <;> simp [Arguments.AsksFor]
  have unrepeated : Unrepeated {} items ↔ (items.map Item.bare).Nodup :=
    ⟨Unrepeated.apart, fun apart => ⟨apart, fun _ _ other _ => nothing other⟩⟩
  rw [Request.ofArguments, items_flatten spelled, ← unrepeated]
  simpa [nothing] using ofItems_eq {} sound

/-- Order and spelling do not matter.  Things that are asked for once each make the same request in
any order and in any of their spellings, and so the same run; to ask for one of them twice is
refused, in every order and spelling, with nothing printed. -/
theorem run_spelled {pieces : List (List Text)} (spelled : List.Forall₂ Spells items pieces) :
    ((items.map Item.bare).Nodup →
        ∃ arguments : Arguments, (∀ item, arguments.AsksFor item ↔ item ∈ items) ∧
          ∀ others otherPieces, others.Perm items → List.Forall₂ Spells others otherPieces →
            Request.ofArguments otherPieces.flatten = .lint arguments ∧
              ∀ environment : Environment,
                run environment otherPieces.flatten = run environment pieces.flatten) ∧
      (¬(items.map Item.bare).Nodup →
        Request.ofArguments pieces.flatten = .refused ∧
          ∀ environment : Environment,
            (run environment pieces.flatten).status.code = 1 ∧
              (run environment pieces.flatten).output = []) := by
  rcases ofArguments_flatten spelled with ⟨apart, arguments, lints, asks⟩ | ⟨repeated, refused⟩
  · refine ⟨fun _ => ⟨arguments, asks, fun others otherPieces same otherSpelled => ?_⟩,
      fun repeated => absurd apart repeated⟩
    rcases ofArguments_flatten otherSpelled with ⟨_, found, otherLints, otherAsks⟩ | ⟨repeated, _⟩
    · obtain rfl : found = arguments :=
        Arguments.ext_asksFor fun item => by rw [otherAsks, asks, same.mem_iff]
      exact ⟨otherLints, fun environment => by rw [run, run, otherLints, lints]⟩
    · exact absurd ((same.map Item.bare).nodup_iff.mpr apart) repeated
  · refine ⟨fun apart => absurd apart repeated, fun _ => ⟨refused, fun environment => ?_⟩⟩
    rw [run, refused]
    exact ⟨rfl, rfl⟩

/-- A configuration behind one dash, and an image whose name could be read as something else. -/
theorem run_spelled_reordered :
    let items : List Item := [.dockerfile "a=b", .verbose, .config "v", .image "x=y"]
    let pieces : List (List Text) := [["a=b"], ["-v"], ["-cv"], ["--image", "x=y"]]
    let others : List Item := [.image "x=y", .config "v", .dockerfile "a=b", .verbose]
    let otherPieces : List (List Text) := [["--image=x=y"], ["-c", "v"], ["a=b"], ["--verbose"]]
    List.Forall₂ Spells items pieces ∧ (items.map Item.bare).Nodup ∧ others.Perm items ∧
      List.Forall₂ Spells others otherPieces ∧
      (∀ environment : Environment,
        run environment otherPieces.flatten = run environment pieces.flatten) ∧
      List.Forall₂ Spells (.verbose :: items) ([("-v" : Text)] :: pieces) ∧
      ¬((Item.verbose :: items).map Item.bare).Nodup ∧
      Request.ofArguments ([("-v" : Text)] :: pieces).flatten = .refused := by
  intro items pieces others otherPieces
  have config : ValueOption.config.Takes "v" := ⟨by decide, by decide, by decide, nofun⟩
  have image : ValueOption.image.Takes "x=y" := ⟨by decide, by decide, by decide, nofun⟩
  have path : Spells (.dockerfile "a=b") ["a=b"] := .path (by decide) (by decide)
  have spelled : List.Forall₂ Spells items pieces :=
    .cons path (.cons .verboseShort
      (.cons (.configJoined config) (.cons (.apart .image image) .nil)))
  have otherSpelled : List.Forall₂ Spells others otherPieces :=
    .cons (.joined .image image) (.cons (.configApart config) (.cons path (.cons .verbose .nil)))
  have twice : List.Forall₂ Spells (.verbose :: items) ([("-v" : Text)] :: pieces) :=
    .cons .verboseShort spelled
  have apart : (items.map Item.bare).Nodup := by decide
  have same : others.Perm items := by decide
  have repeated : ¬((Item.verbose :: items).map Item.bare).Nodup := by decide
  obtain ⟨_, _, run_eq⟩ := (run_spelled spelled).1 apart
  exact ⟨spelled, apart, same, otherSpelled, (run_eq others otherPieces same otherSpelled).2, twice,
    repeated, ((run_spelled twice).2 repeated).1⟩

end DockerfileLint.CommandLine
