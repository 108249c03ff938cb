import DockerfileLint.Check.BaseImage
import DockerfileLint.Check.PackageCaches

namespace DockerfileLint.Check

def contextCopyWarning (line : Nat) : Issue :=
  { kind := .warning
    message := "COPY . . used; consider using specific paths"
    fix := some "Copy only what the build needs, e.g., 'COPY package.json src/ ./'"
    severity := some .low
    impact := some "Copying the whole context invalidates the layer cache on any file change"
    line := some line }

def missingIgnoreFileWarning : Issue :=
  { kind := .warning
    message := "No `.dockerignore` found"
    fix := some
      "Create a .dockerignore next to the Dockerfile listing .git, build output and secrets"
    severity := some .medium
    impact := some "Unneeded or sensitive files end up in the build context and the image"
    references := ["https://docs.docker.com/build/concepts/context/#dockerignore-files"] }

def addWarning (line : Nat) : Issue :=
  { kind := .warning
    message := "Using ADD instead of COPY; ADD adds unneeded complexity and risk"
    fix := some "Use COPY for local files; fetch remote files with curl or wget in a RUN"
    severity := some .low
    references :=
      ["https://docs.docker.com/develop/develop-images/dockerfile_best-practices/#add-or-copy"]
    line := some line }

def missingHealthcheckWarning : Issue :=
  { kind := .warning
    message := "No HEALTHCHECK found"
    fix := some "HEALTHCHECK --interval=30s CMD curl -f http://localhost/ || exit 1"
    severity := some .low
    references := ["https://docs.docker.com/reference/dockerfile/#healthcheck"] }

def missingUserWarning : Issue :=
  { kind := .warning
    message := "USER not specified; running as root"
    fix := some "RUN addgroup -S app && adduser -S app -G app\nUSER app"
    severity := some .medium }

/-- A missing ignore file matters only when the whole context is copied. -/
def contextCopies (dockerfile : Dockerfile) (hasIgnoreFile : Bool) : List Issue :=
  match dockerfile.firstContextCopy? with
  | some copy =>
    contextCopyWarning copy.line :: if hasIgnoreFile then [] else [missingIgnoreFileWarning]
  | none => []

def bestPractices (dockerfile : Dockerfile) (hasIgnoreFile : Bool) : List Issue :=
  contextCopies dockerfile hasIgnoreFile ++
  ((dockerfile.first? "ADD").map fun add => addWarning add.line).toList ++
  (if dockerfile.has "HEALTHCHECK" then [] else [missingHealthcheckWarning]) ++
  (if dockerfile.has "USER" then [] else [missingUserWarning]) ++
  packageCaches dockerfile.instructions ++
  (if Image.isUnpinned dockerfile.baseImage then [unpinnedWarning dockerfile.baseImage] else [])

end DockerfileLint.Check
