import DockerfileLint.Decimal.Shortest
import DockerfileLint.Files.Access
import DockerfileLint.Layer.Size
import DockerfileLint.Text.Blank
import DockerfileLint.Toml.Document

/-! Settings: which groups of checks run, and how layers are judged.  A document gives some of them
and the rest keep their defaults; anything else in the document is refused. -/

namespace DockerfileLint

structure CheckSettings where
  baseImage : Bool := true
  bestPractices : Bool := true
  layerSizes : Bool := true
  security : Bool := false

structure LayerSettings where
  historyCommand : Text := "docker"
  limits : LayerLimits := {}

structure Settings where
  checks : CheckSettings := {}
  layers : LayerSettings := {}

/-- Stands in for the complaint of a reader whose own words are not at hand.  It is written letter by
letter so that it can stand in patterns. -/
@[match_pattern] def SettingsError.bareComplaint : Text :=
  ['T', 'O', 'M', 'L', ' ', 'p', 'a', 'r', 's', 'e', ' ', 'e', 'r', 'r', 'o', 'r']

inductive SettingsError where
  /-- The text is no TOML, or its keys and values are not those of settings.  The complaint is what
  the reader of TOML says about that text. -/
  | malformed (complaint : Text := SettingsError.bareComplaint)
  | emptyHistoryCommand
  | growthFactorTooSmall (factor : Float)
  | unreadable (path : Text) (failure : ReadFailure)

def SettingsError.message : SettingsError → Text
  | .malformed complaint => complaint
  | .emptyHistoryCommand => "layers.history_command must not be empty"
  | .growthFactorTooSmall factor =>
    "layers.growth_factor must be at least 1.0, got " ++ Decimal.text factor
  | .unreadable path failure =>
    "Failed to read config file " ++ path ++ ": " ++ failure.message

namespace Settings

open Toml (Value)

/-- The entries of a section.  In an array the values stand in the order of the keys, and values
beyond the last key are passed over; a table has no other keys. -/
def sectionEntries? (keys : List Text) : Value → Option (List (Text × Value))
  | .table entries => if entries.all fun entry => entry.1 ∈ keys then some entries else none
  | .array elements => some (keys.zip elements)
  | _ => none

def field? (entries : List (Text × Value)) (key : Text) (read? : Value → Option α) (default : α) :
    Option α :=
  match entries.lookup key with
  | none => some default
  | some value => read? value

def boolean? : Value → Option Bool
  | .boolean truth => some truth
  | _ => none

def string? : Value → Option Text
  | .string content => some content
  | _ => none

/-- A number of bytes is not negative. -/
def bytes? : Value → Option Nat
  | .integer number => if 0 ≤ number then some number.toNat else none
  | _ => none

/-- A factor may be written as a whole number. -/
def factor? : Value → Option Float
  | .float number => some number
  | .integer number => some (Decimal.nearest (number < 0) number.natAbs 0)
  | _ => none

def checkKeys : List Text := ["base_image", "best_practices", "layer_sizes", "security"]

def checks? (value : Value) : Option CheckSettings := do
  let entries ← sectionEntries? checkKeys value
  let baseImage ← field? entries "base_image" boolean? true
  let bestPractices ← field? entries "best_practices" boolean? true
  let layerSizes ← field? entries "layer_sizes" boolean? true
  let security ← field? entries "security" boolean? false
  some { baseImage, bestPractices, layerSizes, security }

def layerKeys : List Text :=
  ["history_command", "max_layer_bytes", "growth_factor", "min_growth_bytes"]

def layers? (value : Value) : Option LayerSettings := do
  let entries ← sectionEntries? layerKeys value
  let defaults : LayerLimits := {}
  let historyCommand ← field? entries "history_command" string? "docker"
  let maxBytes ← field? entries "max_layer_bytes" bytes? defaults.maxBytes
  let growthFactor ← field? entries "growth_factor" factor? defaults.growthFactor
  let minGrowthBytes ← field? entries "min_growth_bytes" bytes? defaults.minGrowthBytes
  some { historyCommand, limits := { maxBytes, growthFactor, minGrowthBytes } }

def sectionKeys : List Text := ["checks", "layers"]

/-- The settings that the entries of a document give, over the defaults. -/
def ofEntries? (entries : List (Text × Value)) : Option Settings :=
  if entries.all fun entry => entry.1 ∈ sectionKeys then do
    let checks ← field? entries "checks" checks? {}
    let layers ← field? entries "layers" layers? {}
    some { checks, layers }
  else none

/-- Settings are refused without a command to ask for histories, or with a factor that is not finite
or would let a layer outgrow a larger one. -/
def validated (settings : Settings) : Except SettingsError Settings :=
  let factor := settings.layers.limits.growthFactor
  if Text.trim settings.layers.historyCommand = [] then .error .emptyHistoryCommand
  else if !factor.isFinite || factor < 1.0 then .error (.growthFactorTooSmall factor)
  else .ok settings

/-- The settings of a document.  What there is to say about one that is no document of settings is left
to the reader of TOML, as `complaint`. -/
def ofToml (document : Text) (complaint : Text → Text := fun _ => SettingsError.bareComplaint) :
    Except SettingsError Settings :=
  match Toml.read? document with
  | none => .error (.malformed (complaint document))
  | some entries =>
    match ofEntries? entries with
    | none => .error (.malformed (complaint document))
    | some settings => settings.validated

def load (files : FileAccess) (path : Text) (complaint : Text → Text) :
    Except SettingsError Settings :=
  match files.readText path with
  | .error failure => .error (.unreadable path failure)
  | .ok document => ofToml document complaint

end Settings

end DockerfileLint
