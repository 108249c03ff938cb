import DockerfileLint.Dockerfile.Parser
import DockerfileLint.Settings

namespace DockerfileLint

inductive LoadError where
  | dockerfileMissing (path : Text)
  | dockerfileNotText
  | dockerfileUnreadable (path : Text) (failure : ReadFailure)
  | settings (error : SettingsError)

def LoadError.message : LoadError → Text
  | .dockerfileMissing path => "Dockerfile not found at " ++ path
  | .dockerfileNotText => "Failed to parse Dockerfile: " ++ ReadFailure.notText.message
  | .dockerfileUnreadable path failure =>
    "I/O error: Failed to read " ++ path ++ ": " ++ failure.message
  | .settings error => "Invalid configuration: " ++ error.message

/-- A path at which nothing is present is not even tried. -/
def Dockerfile.load (files : FileAccess) (path : Text) : Except LoadError Dockerfile :=
  if files.isPresent path then
    match files.readText path with
    | .ok content => .ok (Dockerfile.parse path content)
    | .error .notText => .error .dockerfileNotText
    | .error failure => .error (.dockerfileUnreadable path failure)
  else .error (.dockerfileMissing path)

/-- The settings of a file, or the defaults if no file is named. -/
def Settings.loadOptional (files : FileAccess) (path : Option Text)
    (complaint : Text → Text := fun _ => SettingsError.bareComplaint) :
    Except LoadError Settings :=
  match path with
  | none => .ok {}
  | some path => (Settings.load files path complaint).mapError .settings

end DockerfileLint
