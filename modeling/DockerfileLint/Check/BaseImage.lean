import DockerfileLint.Dockerfile.Lookup
import DockerfileLint.Image
import DockerfileLint.Issue

namespace DockerfileLint.Check

def baseImageNote (image : Text) : Issue :=
  { kind := .info
    message := "Base image: " ++ image
    severity := some .info
    impact := some "Base image choice affects the final image size and security posture"
    references := ["https://docs.docker.com/develop/develop-images/baseimages/"] }

def largeImageWarning (image name alternative : Text) : Issue :=
  { kind := .warning
    message := "Using large base image (" ++ name ++
      "); consider a smaller alternative like alpine"
    fix := some ("Replace '" ++ image ++ "' with '" ++ alternative ++
      "' in your FROM instruction")
    severity := some .medium
    impact := some
      "Larger base images increase the final image size and potential attack surface"
    references :=
      ["https://docs.docker.com/develop/develop-images/dockerfile_best-practices/#use-multi-stage-builds",
       "https://hub.docker.com/_/alpine"] }

/-- The reference that the warning about a floating tag suggests. -/
def pinnedExample (image : Text) : Text := Image.withoutLatest image ++ ":1.2.3"

def unpinnedWarning (image : Text) : Issue :=
  { kind := .warning
    message := "Using ':latest' tag or no tag specified; this is non-reproducible"
    fix := some ("Specify a fixed version tag for your base image, e.g., '" ++
      pinnedExample image ++ "'")
    severity := some .high
    impact := some
      "Non-reproducible builds can lead to unexpected behavior and security issues"
    references := ["https://docs.docker.com/develop/dev-best-practices/#use-specific-tags"] }

/-- The base image is always reported, also when there is none; all findings point at the first
`FROM`. -/
def baseImage (dockerfile : Dockerfile) : List Issue :=
  let image := dockerfile.baseImage
  let large := match Image.largeImage? image with
    | some (name, alternative) => [largeImageWarning image name alternative]
    | none => []
  let unpinned := if Image.isUnpinned image then [unpinnedWarning image] else []
  (baseImageNote image :: large ++ unpinned).map (·.atLine (dockerfile.firstLine? "FROM"))

end DockerfileLint.Check
