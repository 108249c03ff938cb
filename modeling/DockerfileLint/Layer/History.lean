import DockerfileLint.Tool

namespace DockerfileLint

/-- A source of layer histories.  `output?` is `none` for an image whose history cannot be had. -/
structure LayerHistory where
  isAvailable : Bool
  output? : Text → Option Text

namespace LayerHistory

def unavailable : LayerHistory := { isAvailable := false, output? := fun _ => none }

/-- The history that a container tool prints.  The tool is available if it is installed and answers
when asked for its version; whether it can give a history is a question of its own. -/
def ofTool (tools : Toolbox) (command : Text) : LayerHistory :=
  { isAvailable :=
      tools.isInstalled command && (tools.run command versionArguments).any (·.succeeded)
    output? := fun image =>
      match tools.run command (historyArguments image) with
      | some result => if result.succeeded then some (Text.ofUtf8Lossy result.output) else none
      | none => none }

end LayerHistory

end DockerfileLint
