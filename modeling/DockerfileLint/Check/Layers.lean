import DockerfileLint.Dockerfile.Lookup
import DockerfileLint.Image
import DockerfileLint.Issue
import DockerfileLint.Layer.History
import DockerfileLint.Layer.Size

namespace DockerfileLint.Check

/-- Sizes are shown in whole millions of bytes, rounded down. -/
def megabytes (bytes : Nat) : Text := Text.ofNat (bytes / 1000000) ++ "MB"

def largeLayerWarning (advice : Text) (index bytes : Nat) : Issue :=
  { kind := .warning
    message := "Layer " ++ Text.ofNat index ++ " adds " ++ megabytes bytes ++
      "; consider using multistage builds"
    fix := some advice
    severity := some .medium
    impact := some "Large layers slow down pulls and deployments"
    references := ["https://docs.docker.com/build/building/multi-stage/"] }

def growingLayerWarning (advice : Text) (index growth : Nat) : Issue :=
  { kind := .warning
    message := "Layer " ++ Text.ofNat index ++ " grows by " ++ megabytes growth ++
      "; check for unneeded files"
    fix := some advice
    severity := some .low
    impact := some "Build artifacts and caches left in a layer are shipped with the image" }

def layerFindings (advice : Text) (limits : LayerLimits) (previous : Nat) (layer : LayerSize) :
    List Issue :=
  if layer.index = 0 then []
  else
    (if limits.isExceeded layer.bytes then [largeLayerWarning advice layer.index layer.bytes]
     else []) ++
    (if limits.isOutgrown previous layer.bytes then
      [growingLayerWarning advice layer.index (layer.bytes - previous)]
     else [])

/-- Judges the layers in order; `previous` is the size of the layer before the first of them. -/
def layersFindings (advice : Text) (limits : LayerLimits) (previous : Nat) :
    List LayerSize → List Issue
  | [] => []
  | layer :: rest =>
    layerFindings advice limits previous layer ++ layersFindings advice limits layer.bytes rest

def historyRequest? (dockerfile : Dockerfile) (image : Text) (history : LayerHistory) :
    Option Text :=
  if dockerfile.has "FROM" ∧ image ≠ [] ∧ history.isAvailable then some image else none

/-- Without a history there is nothing to report.  The advice is for the base image, whichever image
is inspected. -/
def layers (dockerfile : Dockerfile) (image : Text) (history : LayerHistory)
    (limits : LayerLimits) : List Issue :=
  match (historyRequest? dockerfile image history).bind history.output? with
  | some output =>
    layersFindings (Image.multistageAdvice dockerfile.baseImage) limits 0
      (LayerSize.ofHistory output)
  | none => []

end DockerfileLint.Check
