import DockerfileLint.CommandLine.Run
import DockerfileLint.Proofs.Files.Path
import DockerfileLint.Proofs.Load
import Mathlib.Logic.Basic

/-! A run either stops before any check and prints one error, or reports on all that it has loaded.
There is nothing in between: no output before an error, and no error behind a report. -/

namespace DockerfileLint

theorem ExitStatus.code_ofIssues (issues : List Issue) :
    (ofIssues issues).code = if issues = [] then 0 else 2 := by
  cases issues <;> rfl

namespace CommandLine

variable {environment : Environment} {arguments : Arguments}
variable {path printed : Text} {settings : Settings} {dockerfile : Dockerfile}

/-- What stops a run, and what it prints then.  Each reason counts only if none before it does. -/
inductive Obstacle (files : FileAccess) (complaint : Text → Text) (arguments : Arguments) :
    Text → Prop where
  | unnamed (absent : arguments.dockerfile = none) :
      Obstacle files complaint arguments
        "Error: No Dockerfile specified\nUsage: slimcheck ./Dockerfile [--security]\n"
  | settings {path config words : Text} {error : SettingsError}
      (named : arguments.dockerfile = some path) (given : arguments.config = some config)
      (refused : Settings.Refused files complaint config error)
      (wording : (LoadError.settings error).Wording words) :
      Obstacle files complaint arguments ("Error: " ++ words ++ "\n")
  | dockerfile {path words : Text} {settings : Settings} {error : LoadError}
      (named : arguments.dockerfile = some path)
      (chosen : Settings.Chosen files arguments.config settings)
      (unloadable : Dockerfile.Unloadable files path error)
      (wording : error.Wording words) :
      Obstacle files complaint arguments ("Error: " ++ words ++ "\n")

/-- The run stops with the error of an obstacle, whatever tools there are, and asks none. -/
def Stops (environment : Environment) (arguments : Arguments) : Prop :=
  ∃ printed, Obstacle environment.files environment.complaint arguments printed ∧
    ∀ tools isTerminal,
      let outcome := lint { environment with tools, isTerminal } arguments
      outcome.status.code = 1 ∧ outcome.output = printed ∧ outcome.queried = []

/-- Everything is loaded, and the run reports what is found by the linter that settings and arguments
describe. -/
def Completes (environment : Environment) (arguments : Arguments) : Prop :=
  ∃ path settings dockerfile, arguments.dockerfile = some path ∧
    Settings.Chosen environment.files arguments.config settings ∧
    Dockerfile.IsLoaded environment.files path dockerfile ∧
    Path.IsParent path (Path.directory path) ∧
    let security := settings.checks.security || arguments.security
    let linter : Linter :=
      { settings := { settings with checks := { settings.checks with security } }
        context := Path.directory path
        history := .ofTool environment.tools settings.layers.historyCommand
        image := arguments.image }
    let issues := linter.run environment.files dockerfile
    let style := if environment.isTerminal ∧ ¬arguments.noColor then .colored else .plain
    let outcome := lint environment arguments
    outcome.status.code = (if issues = [] then 0 else 2) ∧
      outcome.output =
        match arguments.format.getD .text with
        | .text => Report.header path ++ Report.render style issues
        | .json => Report.renderJson dockerfile issues ++ "\n"

theorem exists_obstacle_or_loaded (environment : Environment) (arguments : Arguments) :
    (∃ printed, Obstacle environment.files environment.complaint arguments printed) ∨
      ∃ path settings dockerfile, arguments.dockerfile = some path ∧
        Settings.Chosen environment.files arguments.config settings ∧
        Dockerfile.IsLoaded environment.files path dockerfile := by
  cases named : arguments.dockerfile with
  | none => exact .inl ⟨_, .unnamed named⟩
  | some path =>
    rcases Settings.exists_chosen_or_refused environment.files environment.complaint
      arguments.config with ⟨settings, chosen⟩ | ⟨config, error, given, refused⟩
    · rcases Dockerfile.exists_isLoaded_or_unloadable environment.files path with
        ⟨dockerfile, loaded⟩ | ⟨error, unloadable⟩
      · exact .inr ⟨path, settings, dockerfile, rfl, chosen, loaded⟩
      · exact .inl ⟨_, .dockerfile named chosen unloadable (LoadError.wording_iff.mpr rfl)⟩
    · exact .inl ⟨_, .settings named given refused (LoadError.wording_iff.mpr rfl)⟩

theorem lint_of_obstacle (environment : Environment)
    (obstacle : Obstacle environment.files environment.complaint arguments printed) :
    lint environment arguments = { status := .failed, output := printed, queried := [] } := by
  cases obstacle with
  | unnamed absent =>
    rw [lint, absent]
    rfl
  | settings named given refused wording =>
    rw [LoadError.wording_iff.mp wording]
    simp only [lint, named, load, given, refused.loadOptional_eq]
    rfl
  | dockerfile named chosen unloadable wording =>
    rw [LoadError.wording_iff.mp wording]
    simp only [lint, named, load, chosen.loadOptional_eq, unloadable.load_eq]
    rfl

theorem linterOf_eq (tools : Toolbox) (arguments : Arguments) (path : Text) (settings : Settings) :
    linterOf tools arguments path settings =
      { settings := { settings with checks := { settings.checks with
          security := settings.checks.security || arguments.security } }
        context := Path.directory path
        history := .ofTool tools settings.layers.historyCommand
        image := arguments.image } := by
  cases given : arguments.security with
  | false =>
    rw [linterOf, given, Bool.or_false]
    rfl
  | true =>
    rw [linterOf, given, Bool.or_true]
    rfl

theorem completes_of_loaded (named : arguments.dockerfile = some path)
    (chosen : Settings.Chosen environment.files arguments.config settings)
    (loaded : Dockerfile.IsLoaded environment.files path dockerfile) :
    Completes environment arguments := by
  refine ⟨path, settings, dockerfile, named, chosen, loaded, Path.isParent_directory path, ?_⟩
  have all : load environment arguments.config path = .ok { settings, dockerfile } := by
    simp only [load, chosen.loadOptional_eq, loaded.load_eq]
    rfl
  obtain rfl : dockerfile.path = path := by
    obtain ⟨content, _, rfl⟩ := loaded.text
    exact Dockerfile.ofInstructions_path path _
  intro security linter issues style outcome
  have whole : outcome =
      { status := .ofIssues issues
        output := report style (arguments.format.getD .text) dockerfile issues
        queried := (linter.historyRequest? dockerfile).toList } := by
    simp only [outcome, lint, named, all, linterOf_eq]
    rfl
  rw [whole]
  refine ⟨ExitStatus.code_ofIssues issues, ?_⟩
  cases arguments.format.getD .text with
  | text => rfl
  | json => rfl

theorem stops_of_obstacle
    (obstacle : Obstacle environment.files environment.complaint arguments printed) :
    Stops environment arguments := by
  refine ⟨printed, obstacle, fun tools isTerminal => ?_⟩
  rw [lint_of_obstacle { environment with tools, isTerminal } obstacle]
  exact ⟨rfl, rfl, rfl⟩

theorem not_stops_of_completes (completes : Completes environment arguments) :
    ¬Stops environment arguments := by
  rintro ⟨_, _, stopped⟩
  obtain ⟨_, _, _, _, _, _, _, code, _⟩ := completes
  have failed := (stopped environment.tools environment.isTerminal).1
  rw [code] at failed
  split at failed <;> cases failed

/-- All or nothing: a run stops or completes, and never both. -/
theorem stops_xor_completes (environment : Environment) (arguments : Arguments) :
    Xor (Stops environment arguments) (Completes environment arguments) := by
  rcases exists_obstacle_or_loaded environment arguments with
    ⟨printed, obstacle⟩ | ⟨path, settings, dockerfile, named, chosen, loaded⟩
  · have stops := stops_of_obstacle obstacle
    exact .inl ⟨stops, fun completes => not_stops_of_completes completes stops⟩
  · have completes := completes_of_loaded named chosen loaded
    exact .inr ⟨completes, not_stops_of_completes completes⟩

/-- The settings have a flaw and the Dockerfile is missing as well; only the first is reported. -/
theorem stops_of_growthFactor :
    let document : Text := "[layers]\ngrowth_factor = 0.5\n"
    let config : Text := "lint.toml"
    let files : FileAccess :=
      { isPresent := (· == config)
        read := fun path =>
          if path = config then .ok (document.map Char.toUInt8) else .error .missing }
    let environment : Environment := { files, tools := .empty, isTerminal := false }
    let arguments : Arguments := { dockerfile := some "Dockerfile", config := some config }
    Stops environment arguments ∧ ¬Completes environment arguments ∧
      (lint environment arguments).output =
        "Error: Invalid configuration: layers.growth_factor must be at least 1.0, got 0.5\n" := by
  intro document config files environment arguments
  have text : files.readText config = .ok document := by
    have read : files.read config = .ok (document.map Char.toUInt8) := by
      dsimp only [files]
      exact if_pos rfl
    have decoded : Text.ofUtf8? (document.map Char.toUInt8) = some document := by
      dsimp only [document]
      decide +kernel
    rw [FileAccess.readText, read]
    simp only [decoded]
  obtain ⟨settings, known, command, small, shown⟩ : ∃ settings,
      Settings.ofDocument? document = some settings ∧
        Text.trim settings.layers.historyCommand ≠ [] ∧
        settings.layers.limits.growthFactor < 1.0 ∧
        Decimal.text settings.layers.limits.growthFactor = ("0.5" : Text) := by
    have evaluated : (Settings.ofDocument? document).any (fun settings => decide (
        Text.trim settings.layers.historyCommand ≠ [] ∧
          settings.layers.limits.growthFactor < 1.0 ∧
          Decimal.text settings.layers.limits.growthFactor = ("0.5" : Text))) = true := by
      dsimp only [document]
      decide +kernel
    obtain ⟨settings, known, facts⟩ := (Option.any_eq_true _ _).mp evaluated
    exact ⟨settings, known, of_decide_eq_true facts⟩
  have refused : Settings.Refused files environment.complaint config
      (.growthFactorTooSmall settings.layers.limits.growthFactor) :=
    .flawed text known (.growthFactor command (.inr small))
  have obstacle : Obstacle files environment.complaint arguments _ :=
    .settings rfl rfl refused (.settings .growthFactorTooSmall)
  have stops : Stops environment arguments := stops_of_obstacle obstacle
  refine ⟨stops, ?_, ?_⟩
  · rcases stops_xor_completes environment arguments with ⟨_, incomplete⟩ | ⟨_, never⟩
    · exact incomplete
    · exact absurd stops never
  · rw [lint_of_obstacle environment obstacle, shown]
    decide +kernel

end CommandLine

end DockerfileLint
