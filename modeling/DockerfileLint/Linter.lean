import DockerfileLint.Check.BestPractices
import DockerfileLint.Check.Layers
import DockerfileLint.Check.Security
import DockerfileLint.Files.Path
import DockerfileLint.Settings

/-! A linter runs the groups of checks that its settings enable, always in the same order.  No group
looks at the findings or at the switch of another. -/

namespace DockerfileLint

/-- `context` is the directory that is searched for an ignore file; `image` replaces the base image
when layers are inspected. -/
structure Linter where
  settings : Settings
  context : Text
  history : LayerHistory
  image : Option Text := none

namespace Linter

/-- A linter that asks the tool named in its settings. -/
def ofSettings (tools : Toolbox) (settings : Settings) (context : Text) : Linter :=
  { settings, context, history := .ofTool tools settings.layers.historyCommand }

def withHistory (linter : Linter) (history : LayerHistory) : Linter := { linter with history }

def withImage (linter : Linter) (image : Option Text) : Linter := { linter with image }

def withSecurity (linter : Linter) (enabled : Bool) : Linter :=
  { linter with
    settings :=
      { linter.settings with checks := { linter.settings.checks with security := enabled } } }

/-- The image whose layers are inspected.  A replacement counts even when it is empty. -/
def inspectedImage (linter : Linter) (dockerfile : Dockerfile) : Text :=
  linter.image.getD dockerfile.baseImage

/-- The image whose history a run asks for, if it asks at all; it asks at most once. -/
def historyRequest? (linter : Linter) (dockerfile : Dockerfile) : Option Text :=
  if linter.settings.checks.layerSizes then
    Check.historyRequest? dockerfile (linter.inspectedImage dockerfile) linter.history
  else none

def hasIgnoreFile (linter : Linter) (files : FileAccess) : Bool :=
  files.isPresent (Path.within linter.context ".dockerignore")

def run (linter : Linter) (files : FileAccess) (dockerfile : Dockerfile) : List Issue :=
  let checks := linter.settings.checks
  (if checks.baseImage then Check.baseImage dockerfile else []) ++
  (if checks.bestPractices then
    Check.bestPractices dockerfile (linter.hasIgnoreFile files) else []) ++
  (if checks.layerSizes then
    Check.layers dockerfile (linter.inspectedImage dockerfile) linter.history
      linter.settings.layers.limits else []) ++
  (if checks.security then Check.security dockerfile else [])

end Linter

end DockerfileLint
