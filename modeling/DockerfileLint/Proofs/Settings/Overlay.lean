import DockerfileLint.Proofs.Decimal.Whole
import DockerfileLint.Proofs.Load
import DockerfileLint.Proofs.Text.Trimming
import DockerfileLint.Proofs.Toml.Wellformed

/-! Settings of a document lie over the defaults.  A document is accepted exactly if every key in it
is that of a setting and its value can be set; each setting then is as the document has it, or as in
the defaults. -/

namespace DockerfileLint

open Toml (Value)

inductive Setting where
  | baseImage
  | bestPractices
  | layerSizes
  | security
  | historyCommand
  | maxLayerBytes
  | growthFactor
  | minGrowthBytes
deriving DecidableEq

namespace Setting

def all : List Setting :=
  [baseImage, bestPractices, layerSizes, security, historyCommand, maxLayerBytes, growthFactor,
    minGrowthBytes]

theorem mem_all (setting : Setting) : setting ∈ all := by
  cases setting <;> decide

def sectionName : Setting → Text
  | baseImage | bestPractices | layerSizes | security => "checks"
  | historyCommand | maxLayerBytes | growthFactor | minGrowthBytes => "layers"

def key : Setting → Text
  | baseImage => "base_image"
  | bestPractices => "best_practices"
  | layerSizes => "layer_sizes"
  | security => "security"
  | historyCommand => "history_command"
  | maxLayerBytes => "max_layer_bytes"
  | growthFactor => "growth_factor"
  | minGrowthBytes => "min_growth_bytes"

abbrev Content : Setting → Type
  | baseImage | bestPractices | layerSizes | security => Bool
  | historyCommand => Text
  | maxLayerBytes | minGrowthBytes => Nat
  | growthFactor => Float

def contentIn (settings : Settings) : (setting : Setting) → setting.Content
  | baseImage => settings.checks.baseImage
  | bestPractices => settings.checks.bestPractices
  | layerSizes => settings.checks.layerSizes
  | security => settings.checks.security
  | historyCommand => settings.layers.historyCommand
  | maxLayerBytes => settings.layers.limits.maxBytes
  | growthFactor => settings.layers.limits.growthFactor
  | minGrowthBytes => settings.layers.limits.minGrowthBytes

def settingsOf (contents : (setting : Setting) → setting.Content) :
    Settings where
  checks := {
    baseImage := contents baseImage
    bestPractices := contents bestPractices
    layerSizes := contents layerSizes
    security := contents security }
  layers := {
    historyCommand := contents historyCommand
    limits := {
      maxBytes := contents maxLayerBytes
      growthFactor := contents growthFactor
      minGrowthBytes := contents minGrowthBytes } }

theorem contentIn_settingsOf (contents : (setting : Setting) → setting.Content)
    (setting : Setting) : setting.contentIn (settingsOf contents) = contents setting := by
  cases setting <;> rfl

theorem key_injective : Function.Injective key := by
  intro setting other same
  cases setting <;> cases other <;> first | rfl | exact absurd same (by decide)

/-- Whether a value of a document sets a setting to a content: a switch is on or off, a command is
not blank, a size is not negative, and a factor is finite and at least one, whole or not. -/
def Sets : (setting : Setting) → Value → setting.Content → Prop
  | baseImage, value, truth | bestPractices, value, truth | layerSizes, value, truth
  | security, value, truth => value = .boolean truth
  | historyCommand, value, command =>
    value = .string command ∧ ∃ c ∈ command, Text.isBlank c = false
  | maxLayerBytes, value, size | minGrowthBytes, value, size => value = .integer (Int.ofNat size)
  | growthFactor, value, factor =>
    (value = .float factor ∧ factor.isFinite = true ∧ 1.0 ≤ factor) ∨
      ∃ whole : Nat, 1 ≤ whole ∧ value = .integer whole ∧ factor = (UInt64.ofNat whole).toFloat

def read? : (setting : Setting) → Value → Option setting.Content
  | baseImage | bestPractices | layerSizes | security => Settings.boolean?
  | historyCommand => Settings.string?
  | maxLayerBytes | minGrowthBytes => Settings.bytes?
  | growthFactor => Settings.factor?

/-- Only a command and a factor can be flawed. -/
def IsSound : (setting : Setting) → setting.Content → Prop
  | historyCommand, command => Text.trim command ≠ []
  | growthFactor, factor => factor.isFinite = true ∧ ¬factor < 1.0
  | _, _ => True

end Setting

namespace Settings

variable {entries pairs : List (Text × Value)} {settings : Settings}

theorem isSound_iff :
    settings.IsSound ↔ ∀ setting : Setting, setting.IsSound (setting.contentIn settings) := by
  constructor
  · intro sound setting
    cases setting with
    | historyCommand => exact sound.command
    | growthFactor => exact ⟨sound.finite, sound.growth⟩
    | _ => exact .intro
  · intro each
    exact ⟨each .historyCommand, (each .growthFactor).1, (each .growthFactor).2⟩

theorem ofToml_eq_ok_iff {document : Text} {complaint : Text → Text}
    (read : Toml.read? document = some entries) :
    ofToml document complaint = .ok settings ↔
      ofEntries? entries = some settings ∧ settings.IsSound := by
  rw [ofToml_eq, ofDocument?, read, Option.bind_some]
  cases ofEntries? entries with
  | none => simp
  | some given =>
    rcases given.isSound_or_exists_flaw with sound | ⟨error, flaw⟩
    · simp only [sound.validated_eq, Except.ok.injEq, Option.some.injEq]
      exact ⟨fun same => ⟨same, same ▸ sound⟩, fun same => same.1⟩
    · have unsound : ¬given.IsSound := fun sound => by
        have both := sound.validated_eq.symm.trans flaw.validated_eq
        cases both
      simp only [flaw.validated_eq, reduceCtorEq, Option.some.injEq, false_iff, not_and]
      rintro rfl
      exact unsound

section Field

variable {α : Type} {key : Text} {reader : Value → Option α} {default content : α}

/-- Whether a key is there or not, its field is what its values say and otherwise the default. -/
theorem field?_eq_some_iff (distinct : (pairs.map Prod.fst).Nodup) :
    field? pairs key reader default = some content ↔
      (∀ value, (key, value) ∈ pairs → reader value = some content) ∧
        ((∀ value, (key, value) ∉ pairs) → content = default) := by
  simp only [← Toml.lookup_eq_some_iff_mem distinct]
  rw [field?]
  cases found : pairs.lookup key with
  | none => simp [eq_comm]
  | some value => simp

end Field

/-- A section, or nothing where a document has none. -/
def sectionOf (entries : List (Text × Value)) (name : Text) : List (Text × Value) :=
  match entries.lookup name with
  | some (.table pairs) => pairs
  | _ => []

/-- An empty section gives the same as no section. -/
theorem field?_section {name : Text} {α : Type} {reader : Value → Option α} {default : α}
    (tables : ∀ value, (name, value) ∈ entries → ∃ pairs, value = .table pairs)
    (empty : reader (.table []) = some default) :
    field? entries name reader default = reader (.table (sectionOf entries name)) := by
  rw [field?, sectionOf]
  cases found : entries.lookup name with
  | none => exact empty.symm
  | some value =>
    obtain ⟨pairs, rfl⟩ := tables value (Toml.mem_of_lookup found)
    rfl

theorem all_mem_iff (keys : List Text) :
    (pairs.all fun pair => pair.1 ∈ keys) = true ↔ ∀ pair ∈ pairs, pair.1 ∈ keys := by
  rw [List.all_eq_true]
  exact forall₂_congr fun _ _ => decide_eq_true_iff

theorem sectionEntries?_table_iff {keys : List Text} {found : List (Text × Value)} :
    sectionEntries? keys (.table pairs) = some found ↔
      (∀ pair ∈ pairs, pair.1 ∈ keys) ∧ found = pairs := by
  rw [sectionEntries?, ← all_mem_iff]
  split
  · rename_i known
    simp only [known, Option.some.injEq, true_and]
    exact eq_comm
  · rename_i unknown
    simp [unknown]

theorem checks?_table_iff {checks : CheckSettings} :
    checks? (.table pairs) = some checks ↔
      (∀ pair ∈ pairs, pair.1 ∈ checkKeys) ∧
        field? pairs "base_image" boolean? true = some checks.baseImage ∧
        field? pairs "best_practices" boolean? true = some checks.bestPractices ∧
        field? pairs "layer_sizes" boolean? true = some checks.layerSizes ∧
        field? pairs "security" boolean? false = some checks.security := by
  simp only [checks?, Option.bind_eq_bind, Option.bind_eq_some_iff, sectionEntries?_table_iff]
  constructor
  · rintro ⟨_, ⟨known, rfl⟩, _, baseImage, _, bestPractices, _, layerSizes, _, security, equal⟩
    cases equal
    exact ⟨known, baseImage, bestPractices, layerSizes, security⟩
  · rintro ⟨known, baseImage, bestPractices, layerSizes, security⟩
    exact ⟨_, ⟨known, rfl⟩, _, baseImage, _, bestPractices, _, layerSizes, _, security, rfl⟩

theorem layers?_table_iff {layers : LayerSettings} :
    layers? (.table pairs) = some layers ↔
      (∀ pair ∈ pairs, pair.1 ∈ layerKeys) ∧
        field? pairs "history_command" string? "docker" = some layers.historyCommand ∧
        field? pairs "max_layer_bytes" bytes? ({} : LayerLimits).maxBytes =
          some layers.limits.maxBytes ∧
        field? pairs "growth_factor" factor? ({} : LayerLimits).growthFactor =
          some layers.limits.growthFactor ∧
        field? pairs "min_growth_bytes" bytes? ({} : LayerLimits).minGrowthBytes =
          some layers.limits.minGrowthBytes := by
  simp only [layers?, Option.bind_eq_bind, Option.bind_eq_some_iff, sectionEntries?_table_iff]
  constructor
  · rintro ⟨_, ⟨known, rfl⟩, _, command, _, maxBytes, _, factor, _, minGrowth, equal⟩
    cases equal
    exact ⟨known, command, maxBytes, factor, minGrowth⟩
  · rintro ⟨known, command, maxBytes, factor, minGrowth⟩
    exact ⟨_, ⟨known, rfl⟩, _, command, _, maxBytes, _, factor, _, minGrowth, rfl⟩

def Gives (entries : List (Text × Value)) (name key : Text) (value : Value) : Prop :=
  ∃ pairs, (name, .table pairs) ∈ entries ∧ (key, value) ∈ pairs

theorem mem_sectionOf_iff (distinct : (entries.map Prod.fst).Nodup) {name key : Text}
    {value : Value} : (key, value) ∈ sectionOf entries name ↔ Gives entries name key value := by
  simp only [Gives, ← Toml.lookup_eq_some_iff_mem distinct]
  rw [sectionOf]
  cases found : entries.lookup name with
  | none => simp
  | some section? => cases section? <;> simp

theorem nodup_sectionOf (wellformed : (Value.table entries).Wellformed) (name : Text) :
    ((sectionOf entries name).map Prod.fst).Nodup := by
  rw [sectionOf]
  cases found : entries.lookup name with
  | none => exact List.nodup_nil
  | some value =>
    have sound := wellformed.of_mem (Toml.mem_of_lookup found)
    cases value with
    | table pairs => exact sound.nodup_keys
    | _ => exact List.nodup_nil

theorem Gives.wellformed {name key : Text} {value : Value} (given : Gives entries name key value)
    (wellformed : (Value.table entries).Wellformed) : value.Wellformed := by
  obtain ⟨pairs, inEntries, inPairs⟩ := given
  exact (wellformed.of_mem inEntries).of_mem inPairs

def HasTables (entries : List (Text × Value)) : Prop :=
  ∀ name value, (name, value) ∈ entries → name = ("checks" : Text) ∨ name = ("layers" : Text) →
    ∃ pairs, value = .table pairs

/-- A document has only sections and keys of settings. -/
structure Known (entries : List (Text × Value)) : Prop where
  sections : ∀ entry ∈ entries, entry.1 = ("checks" : Text) ∨ entry.1 = ("layers" : Text)
  keys : ∀ name key value, Gives entries name key value →
    ∃ setting : Setting, setting.sectionName = name ∧ setting.key = key

theorem mem_keys_iff {name key : Text} {keys : List Text}
    (same : keys = (Setting.all.filter (·.sectionName = name)).map Setting.key) :
    key ∈ keys ↔ ∃ setting : Setting, setting.sectionName = name ∧ setting.key = key := by
  simp [same, Setting.mem_all]

theorem known_iff (distinct : (entries.map Prod.fst).Nodup) :
    Known entries ↔
      (∀ entry ∈ entries, entry.1 ∈ sectionKeys) ∧
        (∀ pair ∈ sectionOf entries "checks", pair.1 ∈ checkKeys) ∧
        ∀ pair ∈ sectionOf entries "layers", pair.1 ∈ layerKeys := by
  have sections_iff (entry : Text × Value) :
      entry.1 = ("checks" : Text) ∨ entry.1 = ("layers" : Text) ↔ entry.1 ∈ sectionKeys := by
    simp [sectionKeys]
  constructor
  · rintro ⟨sections, keys⟩
    refine ⟨fun entry member => (sections_iff entry).mp (sections entry member), ?_, ?_⟩
    · intro pair member
      exact (mem_keys_iff rfl).mpr (keys _ _ _ ((mem_sectionOf_iff distinct).mp member))
    · intro pair member
      exact (mem_keys_iff rfl).mpr (keys _ _ _ ((mem_sectionOf_iff distinct).mp member))
  · rintro ⟨sections, checks, layers⟩
    refine ⟨fun entry member => (sections_iff entry).mpr (sections entry member), ?_⟩
    intro name key value given
    obtain ⟨table, member, _⟩ := id given
    rcases (sections_iff _).mpr (sections _ member) with rfl | rfl
    · exact (mem_keys_iff rfl).mp (checks _ ((mem_sectionOf_iff distinct).mpr given))
    · exact (mem_keys_iff rfl).mp (layers _ ((mem_sectionOf_iff distinct).mpr given))

/-- A setting has the content that its values mean, or that of the defaults if there is none. -/
structure Follows (entries : List (Text × Value)) (settings : Settings) (setting : Setting)
    (means : Value → setting.Content → Prop) : Prop where
  given : ∀ value, Gives entries setting.sectionName setting.key value →
    means value (setting.contentIn settings)
  absent : (∀ value, ¬Gives entries setting.sectionName setting.key value) →
    setting.contentIn settings = setting.contentIn {}

theorem follows_iff (wellformed : (Value.table entries).Wellformed) {setting : Setting}
    {reader : Value → Option setting.Content} :
    Follows entries settings setting (fun value content => reader value = some content) ↔
      field? (sectionOf entries setting.sectionName) setting.key reader (setting.contentIn {}) =
        some (setting.contentIn settings) := by
  rw [field?_eq_some_iff (nodup_sectionOf wellformed _)]
  simp only [mem_sectionOf_iff wellformed.nodup_keys]
  exact ⟨fun follows => ⟨follows.given, follows.absent⟩, fun both => ⟨both.1, both.2⟩⟩

theorem ofEntries?_eq_some_iff (wellformed : (Value.table entries).Wellformed)
    (tables : HasTables entries) :
    ofEntries? entries = some settings ↔
      Known entries ∧ ∀ setting : Setting,
        Follows entries settings setting fun value content =>
          setting.read? value = some content := by
  have checks :
      field? entries "checks" checks? {} = checks? (.table (sectionOf entries "checks")) :=
    field?_section (fun value member => tables _ value member (.inl rfl)) rfl
  have layers :
      field? entries "layers" layers? {} = layers? (.table (sectionOf entries "layers")) :=
    field?_section (fun value member => tables _ value member (.inr rfl)) rfl
  rw [ofEntries?, checks, layers, known_iff wellformed.nodup_keys]
  simp only [follows_iff wellformed, ← all_mem_iff sectionKeys]
  split
  · rename_i known
    simp only [Option.bind_eq_bind, Option.bind_eq_some_iff, checks?_table_iff, layers?_table_iff]
    constructor
    · rintro ⟨checks, ⟨checkKeys, baseImage, bestPractices, layerSizes, security⟩,
        layers, ⟨layerKeys, command, maxBytes, factor, minGrowth⟩, equal⟩
      cases equal
      refine ⟨⟨known, checkKeys, layerKeys⟩, fun setting => ?_⟩
      cases setting with
      | baseImage => exact baseImage
      | bestPractices => exact bestPractices
      | layerSizes => exact layerSizes
      | security => exact security
      | historyCommand => exact command
      | maxLayerBytes => exact maxBytes
      | growthFactor => exact factor
      | minGrowthBytes => exact minGrowth
    · rintro ⟨⟨_, checkKeys, layerKeys⟩, each⟩
      exact ⟨settings.checks, ⟨checkKeys, each .baseImage, each .bestPractices, each .layerSizes,
        each .security⟩, settings.layers, ⟨layerKeys, each .historyCommand, each .maxLayerBytes,
        each .growthFactor, each .minGrowthBytes⟩, rfl⟩
  · rename_i unknown
    simp [unknown]

end Settings

namespace Setting

theorem isSound_default (setting : Setting) : setting.IsSound (setting.contentIn {}) := by
  cases setting with
  | historyCommand =>
    show Text.trim "docker" ≠ []
    decide
  | growthFactor => exact ⟨by decide, by decide⟩
  | _ => exact .intro

/-- A whole number is a sound factor exactly if it is at least one. -/
theorem factor?_integer_iff {number : Int} (inRange : Toml.fits number = true) {factor : Float} :
    Settings.factor? (.integer number) = some factor ∧ factor.isFinite = true ∧ ¬factor < 1.0 ↔
      ∃ whole : Nat, 1 ≤ whole ∧ number = whole ∧ factor = (UInt64.ofNat whole).toFloat := by
  have small := Toml.natAbs_lt_of_fits inRange
  rcases Int.lt_trichotomy number 0 with negative | rfl | positive
  · constructor
    · rintro ⟨read, finite, atLeastOne⟩
      rw [Settings.factor?, decide_eq_true negative, Option.some.injEq] at read
      subst read
      exact absurd (Decimal.nearest_negative_lt_one (by omega) small) atLeastOne
    · rintro ⟨whole, _, rfl, _⟩
      omega
  · constructor
    · rintro ⟨read, finite, atLeastOne⟩
      cases read
      exact absurd (by decide) atLeastOne
    · rintro ⟨whole, atLeastOne, zero, _⟩
      omega
  · obtain ⟨whole, rfl⟩ := Int.eq_ofNat_of_zero_le (Int.le_of_lt positive)
    rw [Int.natAbs_natCast] at small
    have begun : 0 < whole := by omega
    have finite := Decimal.isFinite_nearest_whole false begun small
    have atLeastOne :=
      (Decimal.not_lt_one_iff finite).mpr (Decimal.one_le_nearest_whole begun small)
    rw [Settings.factor?, decide_eq_false (Int.not_lt.mpr (Int.le_of_lt positive)),
      Int.natAbs_natCast, Option.some.injEq]
    constructor
    · rintro ⟨rfl, _, _⟩
      exact ⟨whole, begun, rfl, Decimal.nearest_whole_eq_toFloat begun small⟩
    · rintro ⟨other, _, same, rfl⟩
      obtain rfl := Int.ofNat.inj same
      rw [← Decimal.nearest_whole_eq_toFloat begun small]
      exact ⟨rfl, finite, atLeastOne⟩

theorem sets_iff {setting : Setting} {value : Value} (wellformed : value.Wellformed)
    {content : setting.Content} :
    setting.Sets value content ↔ setting.read? value = some content ∧ setting.IsSound content := by
  have boolean (truth : Bool) :
      value = .boolean truth ↔ Settings.boolean? value = some truth ∧ True := by
    cases value <;> simp [Settings.boolean?]
  have bytes (size : Nat) :
      value = .integer (Int.ofNat size) ↔ Settings.bytes? value = some size ∧ True := by
    cases value with
    | integer number =>
      simp only [Settings.bytes?, Value.integer.injEq, Int.ofNat_eq_natCast]
      split <;> simp <;> omega
    | _ => simp [Settings.bytes?]
  cases setting with
  | baseImage => exact boolean content
  | bestPractices => exact boolean content
  | layerSizes => exact boolean content
  | security => exact boolean content
  | historyCommand =>
    cases value with
    | string text =>
      simp only [Sets, read?, IsSound, Settings.string?, Value.string.injEq, Option.some.injEq,
        ne_eq, Text.trim_eq_nil]
      simp
    | _ => simp [Sets, read?, Settings.string?]
  | maxLayerBytes => exact bytes content
  | growthFactor =>
    cases value with
    | float number =>
      simp only [Sets, read?, IsSound, Settings.factor?, Value.float.injEq, Option.some.injEq,
        reduceCtorEq, false_and, and_false, exists_false, or_false]
      constructor
      · rintro ⟨rfl, finite, atLeastOne⟩
        exact ⟨rfl, finite, (Decimal.not_lt_one_iff finite).mpr atLeastOne⟩
      · rintro ⟨rfl, finite, notBelow⟩
        exact ⟨rfl, finite, (Decimal.not_lt_one_iff finite).mp notBelow⟩
    | integer number =>
      cases wellformed with
      | integer inRange =>
        simp only [Sets, read?, IsSound, factor?_integer_iff inRange, Value.integer.injEq,
          reduceCtorEq, false_and, false_or]
    | _ => simp [Sets, read?, Settings.factor?]
  | minGrowthBytes => exact bytes content

end Setting

namespace Settings

variable {entries : List (Text × Value)} {settings : Settings} {document : Text}
variable {complaint : Text → Text}

/-- A document is accepted with exactly the settings that follow it. -/
theorem ofToml_eq_ok_iff_follows (read : Toml.read? document = some entries)
    (tables : HasTables entries) :
    ofToml document complaint = .ok settings ↔
      Known entries ∧ ∀ setting : Setting, Follows entries settings setting setting.Sets := by
  have wellformed := Toml.read?_wellformed read
  rw [ofToml_eq_ok_iff read, ofEntries?_eq_some_iff wellformed tables, isSound_iff, and_assoc,
    ← forall_and]
  refine and_congr_right fun known => forall_congr' fun setting => ?_
  constructor
  · rintro ⟨follows, isSound⟩
    refine ⟨fun value given => ?_, follows.absent⟩
    exact (Setting.sets_iff (given.wellformed wellformed)).mpr ⟨follows.given value given, isSound⟩
  · intro follows
    refine ⟨⟨fun value given => ?_, follows.absent⟩, ?_⟩
    · exact ((Setting.sets_iff (given.wellformed wellformed)).mp (follows.given value given)).1
    · by_cases absent : ∀ value, ¬Gives entries setting.sectionName setting.key value
      · rw [follows.absent absent]
        exact setting.isSound_default
      · obtain ⟨value, given⟩ := not_forall_not.mp absent
        exact ((Setting.sets_iff (given.wellformed wellformed)).mp (follows.given value given)).2

/-- Every key of a document is that of a setting, and its value can be set. -/
structure Acceptable (entries : List (Text × Value)) : Prop where
  sections : ∀ entry ∈ entries, entry.1 = ("checks" : Text) ∨ entry.1 = ("layers" : Text)
  settings : ∀ name key value, Gives entries name key value →
    ∃ setting : Setting, setting.sectionName = name ∧ setting.key = key ∧
      ∃ content, setting.Sets value content

theorem Acceptable.known (acceptable : Acceptable entries) : Known entries := by
  refine ⟨acceptable.sections, fun name key value given => ?_⟩
  obtain ⟨setting, inSection, keys, _⟩ := acceptable.settings name key value given
  exact ⟨setting, inSection, keys⟩

theorem Gives.value_eq (wellformed : (Value.table entries).Wellformed) {name key : Text}
    {value other : Value} (given : Gives entries name key value)
    (alsoGiven : Gives entries name key other) : value = other := by
  rw [← mem_sectionOf_iff wellformed.nodup_keys,
    ← Toml.lookup_eq_some_iff_mem (nodup_sectionOf wellformed name)] at given alsoGiven
  exact Option.some.inj (given.symm.trans alsoGiven)

theorem exists_follows (wellformed : (Value.table entries).Wellformed)
    (acceptable : Acceptable entries) :
    ∃ settings, ∀ setting : Setting, Follows entries settings setting setting.Sets := by
  have each (setting : Setting) : ∃ content : setting.Content,
      (∀ value, Gives entries setting.sectionName setting.key value → setting.Sets value content) ∧
        ((∀ value, ¬Gives entries setting.sectionName setting.key value) →
          content = setting.contentIn {}) := by
    by_cases absent : ∀ value, ¬Gives entries setting.sectionName setting.key value
    · exact ⟨setting.contentIn {}, fun value given => absurd given (absent value), fun _ => rfl⟩
    · obtain ⟨value, given⟩ := not_forall_not.mp absent
      obtain ⟨same, _, keys, content, sets⟩ := acceptable.settings _ _ _ given
      obtain rfl := Setting.key_injective keys
      refine ⟨content, fun other alsoGiven => ?_, fun none => absurd given (none value)⟩
      exact given.value_eq wellformed alsoGiven ▸ sets
  choose contents given absent using each
  refine ⟨Setting.settingsOf contents, fun setting => ⟨?_, ?_⟩⟩
  · rw [Setting.contentIn_settingsOf]
    exact given setting
  · rw [Setting.contentIn_settingsOf]
    exact absent setting

/-- Empty sections give the defaults, as no section does. -/
theorem ofToml_eq_defaults (read : Toml.read? document = some entries)
    (empty : ∀ entry ∈ entries,
      (entry.1 = ("checks" : Text) ∨ entry.1 = ("layers" : Text)) ∧ entry.2 = .table []) :
    ofToml document complaint = .ok {} := by
  have nothing : ∀ name key value, ¬Gives entries name key value := by
    rintro name key value ⟨pairs, inEntries, inPairs⟩
    cases (empty _ inEntries).2
    cases inPairs
  have tables : HasTables entries := fun name value member _ => ⟨[], (empty _ member).2⟩
  refine (ofToml_eq_ok_iff_follows read tables).mpr ⟨⟨?_, ?_⟩, fun setting => ⟨?_, fun _ => rfl⟩⟩
  · exact fun entry member => (empty entry member).1
  · exact fun name key value given => absurd given (nothing name key value)
  · exact fun value given => absurd given (nothing _ _ value)

/-- A document whose sections are tables is accepted exactly if every key in it is that of a setting
and has a value that can be set.  The settings then follow these values and otherwise the defaults,
and they do not depend on anything else, such as the order in which the document gives them. -/
theorem ofToml_overlay (complaint : Text → Text) (read : Toml.read? document = some entries)
    (tables : HasTables entries) :
    ((∃ settings, ofToml document complaint = .ok settings) ↔ Acceptable entries) ∧
      (∀ settings, ofToml document complaint = .ok settings →
        (∀ setting : Setting, Follows entries settings setting setting.Sets) ∧
        ∀ other otherEntries, Toml.read? other = some otherEntries → HasTables otherEntries →
          (∀ entry ∈ otherEntries, entry.1 = ("checks" : Text) ∨ entry.1 = ("layers" : Text)) →
          (∀ name key value, Gives otherEntries name key value ↔ Gives entries name key value) →
          ofToml other complaint = .ok settings) ∧
      ((∀ entry ∈ entries, (entry.1 = ("checks" : Text) ∨ entry.1 = ("layers" : Text)) ∧
        entry.2 = .table []) → ofToml document complaint = .ok {}) ∧
      ofToml [] complaint = .ok {} := by
  have wellformed := Toml.read?_wellformed read
  refine ⟨⟨?_, ?_⟩, ?_, ?_, ?_⟩
  · rintro ⟨settings, accepted⟩
    obtain ⟨known, follows⟩ := (ofToml_eq_ok_iff_follows read tables).mp accepted
    refine ⟨known.sections, fun name key value given => ?_⟩
    obtain ⟨setting, rfl, rfl⟩ := known.keys name key value given
    exact ⟨setting, rfl, rfl, _, (follows setting).given value given⟩
  · intro acceptable
    obtain ⟨settings, follows⟩ := exists_follows wellformed acceptable
    exact ⟨settings, (ofToml_eq_ok_iff_follows read tables).mpr ⟨acceptable.known, follows⟩⟩
  · intro settings accepted
    obtain ⟨known, follows⟩ := (ofToml_eq_ok_iff_follows read tables).mp accepted
    refine ⟨follows, fun other otherEntries readOther otherTables sections same => ?_⟩
    refine (ofToml_eq_ok_iff_follows readOther otherTables).mpr ⟨⟨sections, ?_⟩, fun setting => ?_⟩
    · intro name key value given
      exact known.keys name key value ((same name key value).mp given)
    · constructor
      · intro value given
        exact (follows setting).given value ((same _ _ _).mp given)
      · intro absent
        exact (follows setting).absent fun value given => absent value ((same _ _ _).mpr given)
  · exact ofToml_eq_defaults read
  · exact ofToml_eq_defaults (show Toml.read? [] = some [] from rfl) nofun

theorem ofToml_overlay_inline :
    let document : Text := "[layers]\ngrowth_factor = 2\n[checks]\nsecurity = true\n"
    let entries : List (Text × Value) :=
      [(("layers" : Text), .table [(("growth_factor" : Text), .integer 2)]),
        (("checks" : Text), .table [(("security" : Text), .boolean true)])]
    let other : Text := "checks.security = true\nlayers = { growth_factor = 2 }\n"
    let otherEntries : List (Text × Value) :=
      [(("checks" : Text), .table [(("security" : Text), .boolean true)]),
        (("layers" : Text), .table [(("growth_factor" : Text), .integer 2)])]
    Toml.read? document = some entries ∧ HasTables entries ∧
      Toml.read? other = some otherEntries ∧
      ∃ settings, ofToml document = .ok settings ∧ ofToml other = .ok settings ∧
        settings.checks.security = true ∧ settings.checks.baseImage = true ∧
        settings.layers.limits.growthFactor = (UInt64.ofNat 2).toFloat ∧
        settings.layers.limits.maxBytes = 100000000 := by
  intro document entries other otherEntries
  have gives {name key : Text} {value : Value} (given : Gives entries name key value) :
      (name = ("layers" : Text) ∧ key = ("growth_factor" : Text) ∧ value = .integer 2) ∨
        (name = ("checks" : Text) ∧ key = ("security" : Text) ∧ value = .boolean true) := by
    obtain ⟨pairs, inEntries, inPairs⟩ := given
    simp only [entries, List.mem_cons, Prod.mk.injEq, List.not_mem_nil, or_false] at inEntries
    rcases inEntries with ⟨rfl, equal⟩ | ⟨rfl, equal⟩
    · cases equal
      cases List.mem_singleton.mp inPairs
      exact .inl ⟨rfl, rfl, rfl⟩
    · cases equal
      cases List.mem_singleton.mp inPairs
      exact .inr ⟨rfl, rfl, rfl⟩
  have unset (setting : Setting) (others : setting.key ≠ ("growth_factor" : Text) ∧
      setting.key ≠ ("security" : Text)) (value : Value) :
      ¬Gives entries setting.sectionName setting.key value := by
    intro given
    rcases gives given with ⟨_, key, _⟩ | ⟨_, key, _⟩
    · exact others.1 key
    · exact others.2 key
  have sections : ∀ entry ∈ entries,
      (entry.1 = ("checks" : Text) ∨ entry.1 = ("layers" : Text)) ∧
        ∃ pairs, entry.2 = .table pairs :=
    List.forall_mem_cons.mpr ⟨⟨.inr rfl, _, rfl⟩, List.forall_mem_singleton.mpr ⟨.inl rfl, _, rfl⟩⟩
  have swapped : ∀ entry, entry ∈ otherEntries ↔ entry ∈ entries := fun _ =>
    (List.Perm.swap _ _ []).mem_iff
  have read : Toml.read? document = some entries := by
    dsimp only [document, entries]
    cbv
  have readOther : Toml.read? other = some otherEntries := by
    dsimp only [other, otherEntries]
    cbv
  have tables : HasTables entries := fun name value member _ => (sections _ member).2
  have acceptable : Acceptable entries := by
    refine ⟨fun entry member => (sections entry member).1, fun name key value given => ?_⟩
    rcases gives given with ⟨rfl, rfl, rfl⟩ | ⟨rfl, rfl, rfl⟩
    · exact ⟨.growthFactor, rfl, rfl, _, .inr ⟨2, by decide, rfl, rfl⟩⟩
    · exact ⟨.security, rfl, rfl, _, rfl⟩
  obtain ⟨accepts, overlay, _⟩ := ofToml_overlay _ read tables
  obtain ⟨settings, accepted⟩ := accepts.mpr acceptable
  obtain ⟨follows, others⟩ := overlay settings accepted
  refine ⟨read, tables, readOther, settings, accepted, ?_, ?_, ?_, ?_, ?_⟩
  · refine others other otherEntries readOther ?_ ?_ ?_
    · exact fun name value member => tables name value ((swapped _).mp member)
    · exact fun entry member => (sections entry ((swapped entry).mp member)).1
    · exact fun name key value => exists_congr fun pairs => and_congr_left fun _ => swapped _
  · have security := (follows .security).given _ ⟨_, .tail _ (.head _), .head _⟩
    exact (Value.boolean.inj security).symm
  · exact (follows .baseImage).absent (unset .baseImage (by decide))
  · have factor := (follows .growthFactor).given _ ⟨_, .head _, .head _⟩
    rcases factor with ⟨float, _⟩ | ⟨whole, _, same, factor⟩
    · cases float
    · obtain rfl := Int.ofNat.inj (Value.integer.inj same)
      exact factor
  · exact (follows .maxLayerBytes).absent (unset .maxLayerBytes (by decide))

end Settings

end DockerfileLint
