import DockerfileLint.Load

namespace DockerfileLint

variable {files : FileAccess} {complaint : Text → Text} {path words : Text} {config : Option Text}

/-- The words for each way in which a file cannot be read. -/
inductive ReadFailure.Wording : ReadFailure → Text → Prop where
  | missing : Wording .missing "No such file or directory (os error 2)"
  | notDirectory : Wording .notDirectory "Not a directory (os error 20)"
  | isDirectory : Wording .isDirectory "Is a directory (os error 21)"
  | nameTooLong : Wording .nameTooLong "File name too long (os error 36)"
  | nulInPath : Wording .nulInPath "file name contained an unexpected NUL byte"
  | notText : Wording .notText "stream did not contain valid UTF-8"
  | other {reason : Text} : Wording (.other reason) reason

theorem ReadFailure.wording_iff {failure : ReadFailure} :
    failure.Wording words ↔ words = failure.message := by
  constructor
  · intro wording
    cases wording <;> rfl
  · rintro rfl
    cases failure <;> constructor

/-- Words for each way in which settings fail; those on a document that is refused come with it. -/
inductive SettingsError.Wording : SettingsError → Text → Prop where
  | malformed {complaint : Text} : Wording (.malformed complaint) complaint
  | emptyHistoryCommand : Wording .emptyHistoryCommand "layers.history_command must not be empty"
  | growthFactorTooSmall {factor : Float} : Wording (.growthFactorTooSmall factor)
      ("layers.growth_factor must be at least 1.0, got " ++ Decimal.text factor)
  | unreadable {path reason : Text} {failure : ReadFailure} (wording : failure.Wording reason) :
      Wording (.unreadable path failure) ("Failed to read config file " ++ path ++ ": " ++ reason)

theorem SettingsError.wording_iff {error : SettingsError} :
    error.Wording words ↔ words = error.message := by
  constructor
  · intro wording
    cases wording with
    | unreadable wording =>
      rw [ReadFailure.wording_iff.mp wording]
      rfl
    | _ => rfl
  · rintro rfl
    cases error with
    | unreadable path failure => exact .unreadable (ReadFailure.wording_iff.mpr rfl)
    | _ => constructor

inductive LoadError.Wording : LoadError → Text → Prop where
  | dockerfileMissing {path : Text} :
      Wording (.dockerfileMissing path) ("Dockerfile not found at " ++ path)
  | dockerfileNotText {reason : Text} (wording : ReadFailure.notText.Wording reason) :
      Wording .dockerfileNotText ("Failed to parse Dockerfile: " ++ reason)
  | dockerfileUnreadable {path reason : Text} {failure : ReadFailure}
      (wording : failure.Wording reason) :
      Wording (.dockerfileUnreadable path failure)
        ("I/O error: Failed to read " ++ path ++ ": " ++ reason)
  | settings {reason : Text} {error : SettingsError} (wording : error.Wording reason) :
      Wording (.settings error) ("Invalid configuration: " ++ reason)

theorem LoadError.wording_iff {error : LoadError} : error.Wording words ↔ words = error.message := by
  constructor
  · intro wording
    cases wording with
    | dockerfileMissing => rfl
    | dockerfileNotText wording | dockerfileUnreadable wording =>
      rw [ReadFailure.wording_iff.mp wording]
      rfl
    | settings wording =>
      rw [SettingsError.wording_iff.mp wording]
      rfl
  · rintro rfl
    cases error with
    | dockerfileMissing path => exact .dockerfileMissing
    | dockerfileNotText => exact .dockerfileNotText (ReadFailure.wording_iff.mpr rfl)
    | dockerfileUnreadable path failure => exact .dockerfileUnreadable (ReadFailure.wording_iff.mpr rfl)
    | settings error => exact .settings (SettingsError.wording_iff.mpr rfl)

namespace Settings

variable {settings : Settings} {error : SettingsError}

/-- Layers can be asked for and compared with these settings. -/
structure IsSound (settings : Settings) : Prop where
  command : Text.trim settings.layers.historyCommand ≠ []
  finite : settings.layers.limits.growthFactor.isFinite = true
  growth : ¬settings.layers.limits.growthFactor < 1.0

/-- Why settings are refused although they can be read.  The command is looked at first. -/
inductive Flaw (settings : Settings) : SettingsError → Prop where
  | command (blank : Text.trim settings.layers.historyCommand = []) :
      Flaw settings .emptyHistoryCommand
  | growthFactor (command : Text.trim settings.layers.historyCommand ≠ [])
      (bad : settings.layers.limits.growthFactor.isFinite = false ∨
        settings.layers.limits.growthFactor < 1.0) :
      Flaw settings (.growthFactorTooSmall settings.layers.limits.growthFactor)

theorem IsSound.validated_eq (sound : settings.IsSound) : settings.validated = .ok settings := by
  rw [validated, if_neg sound.command, if_neg]
  simp [sound.finite, sound.growth]

theorem Flaw.validated_eq (flaw : settings.Flaw error) : settings.validated = .error error := by
  cases flaw with
  | command blank => rw [validated, if_pos blank]
  | growthFactor command bad =>
    rw [validated, if_neg command, if_pos]
    rcases bad with infinite | small
    · simp [infinite]
    · simp [small]

theorem isSound_or_exists_flaw (settings : Settings) :
    settings.IsSound ∨ ∃ error, settings.Flaw error := by
  by_cases blank : Text.trim settings.layers.historyCommand = []
  · exact .inr ⟨_, .command blank⟩
  · by_cases small : settings.layers.limits.growthFactor < 1.0
    · exact .inr ⟨_, .growthFactor blank (.inr small)⟩
    · cases finite : settings.layers.limits.growthFactor.isFinite with
      | true => exact .inl ⟨blank, finite, small⟩
      | false => exact .inr ⟨_, .growthFactor blank (.inl finite)⟩

def ofDocument? (document : Text) : Option Settings :=
  (Toml.read? document).bind fun entries => ofEntries? entries

theorem ofToml_eq (document : Text) (complaint : Text → Text) :
    ofToml document complaint =
      match ofDocument? document with
      | none => .error (.malformed (complaint document))
      | some settings => settings.validated := by
  rw [ofToml, ofDocument?]
  cases Toml.read? document with
  | none => rfl
  | some entries => rfl

/-- The settings of a run: the defaults, or those of a file if one is named. -/
inductive Chosen (files : FileAccess) : Option Text → Settings → Prop where
  | default : Chosen files none {}
  | file {path document : Text} {settings : Settings} (text : files.readText path = .ok document)
      (known : ofDocument? document = some settings) (sound : settings.IsSound) :
      Chosen files (some path) settings

/-- Why a file with settings is refused: it is no text, it is no document of settings, or what it
says is flawed. -/
inductive Refused (files : FileAccess) (complaint : Text → Text) (path : Text) :
    SettingsError → Prop where
  | unreadable {failure : ReadFailure} (failed : files.readText path = .error failure) :
      Refused files complaint path (.unreadable path failure)
  | malformed {document : Text} (text : files.readText path = .ok document)
      (unknown : ofDocument? document = none) :
      Refused files complaint path (.malformed (complaint document))
  | flawed {document : Text} {settings : Settings} {error : SettingsError}
      (text : files.readText path = .ok document) (known : ofDocument? document = some settings)
      (flaw : settings.Flaw error) : Refused files complaint path error

theorem Chosen.loadOptional_eq (chosen : Chosen files config settings) :
    loadOptional files config complaint = .ok settings := by
  cases chosen with
  | default => rfl
  | file text known sound =>
    simp only [loadOptional, load, text, ofToml_eq, known, sound.validated_eq]
    rfl

theorem Refused.loadOptional_eq (refused : Refused files complaint path error) :
    loadOptional files (some path) complaint = .error (.settings error) := by
  cases refused with
  | unreadable failed =>
    simp only [loadOptional, load, failed]
    rfl
  | malformed text unknown =>
    simp only [loadOptional, load, text, ofToml_eq, unknown]
    rfl
  | flawed text known flaw =>
    simp only [loadOptional, load, text, ofToml_eq, known, flaw.validated_eq]
    rfl

theorem exists_chosen_or_refused (files : FileAccess) (complaint : Text → Text)
    (config : Option Text) :
    (∃ settings, Chosen files config settings) ∨
      ∃ path error, config = some path ∧ Refused files complaint path error := by
  cases config with
  | none => exact .inl ⟨_, .default⟩
  | some path =>
    cases text : files.readText path with
    | error failure => exact .inr ⟨path, _, rfl, .unreadable text⟩
    | ok document =>
      cases known : ofDocument? document with
      | none => exact .inr ⟨path, _, rfl, .malformed text known⟩
      | some settings =>
        rcases settings.isSound_or_exists_flaw with sound | ⟨error, flaw⟩
        · exact .inl ⟨settings, .file text known sound⟩
        · exact .inr ⟨path, error, rfl, .flawed text known flaw⟩

end Settings

namespace Dockerfile

variable {dockerfile : Dockerfile} {error : LoadError}

structure IsLoaded (files : FileAccess) (path : Text) (dockerfile : Dockerfile) : Prop where
  present : files.isPresent path = true
  text : ∃ content, files.readText path = .ok content ∧ dockerfile = parse path content

inductive Unloadable (files : FileAccess) (path : Text) : LoadError → Prop where
  | missing (absent : files.isPresent path = false) : Unloadable files path (.dockerfileMissing path)
  | notText (present : files.isPresent path = true)
      (failed : files.readText path = .error .notText) : Unloadable files path .dockerfileNotText
  | unreadable {failure : ReadFailure} (present : files.isPresent path = true)
      (failed : files.readText path = .error failure) (other : failure ≠ .notText) :
      Unloadable files path (.dockerfileUnreadable path failure)

theorem IsLoaded.load_eq (loaded : IsLoaded files path dockerfile) :
    load files path = .ok dockerfile := by
  obtain ⟨content, read, rfl⟩ := loaded.text
  rw [load, if_pos loaded.present, read]

theorem Unloadable.load_eq (unloadable : Unloadable files path error) :
    load files path = .error error := by
  cases unloadable with
  | missing absent =>
    rw [load, absent]
    rfl
  | notText present failed => rw [load, if_pos present, failed]
  | @unreadable failure present failed other =>
    rw [load, if_pos present, failed]
    cases failure <;> first | rfl | exact absurd rfl other

theorem exists_isLoaded_or_unloadable (files : FileAccess) (path : Text) :
    (∃ dockerfile, IsLoaded files path dockerfile) ∨ ∃ error, Unloadable files path error := by
  cases present : files.isPresent path with
  | false => exact .inr ⟨_, .missing present⟩
  | true =>
    cases read : files.readText path with
    | ok content => exact .inl ⟨_, present, content, read, rfl⟩
    | error failure =>
      by_cases undecoded : failure = .notText
      · exact .inr ⟨_, .notText present (undecoded ▸ read)⟩
      · exact .inr ⟨_, .unreadable present read undecoded⟩

end Dockerfile

end DockerfileLint
