import DockerfileLint.Dockerfile.Lookup
import DockerfileLint.Issue

namespace DockerfileLint.Check

def rootUserFinding (line : Option Nat) : Issue :=
  { kind := .security
    message := "Container runs as root; create a non-root user"
    fix := some "RUN addgroup -S app && adduser -S app -G app\nUSER app"
    severity := some .high
    impact := some
      "A compromised process gets root inside the container and an easier path to the host"
    references :=
      ["https://docs.docker.com/develop/develop-images/dockerfile_best-practices/#user"]
    line := line }

def remoteAddFinding (line : Nat) : Issue :=
  { kind := .security
    message := "Using ADD with URL; risky, use curl or wget instead"
    fix := some
      "RUN curl -fsSLo /tmp/file <url> && echo '<sha256>  /tmp/file' | sha256sum -c -"
    severity := some .medium
    impact := some "Remote content is fetched without integrity verification"
    line := some line }

def exposedPortsFinding (ports : List Text) (line : Option Nat) : Issue :=
  { kind := .security
    message := "EXPOSE ports found; verify each port is necessary"
    fix := some ("Exposed ports: " ++ Text.joinWith ", " ports ++
      "\nRemove any port the service does not listen on")
    severity := some .low
    impact := some "Every exposed port widens the network attack surface"
    line := line }

def copyOwnerFinding (line : Option Nat) : Issue :=
  { kind := .security
    message := "COPY without --chown flag; may cause permission issues for non-root user"
    fix := some "COPY --chown=<user>:<group> <src> <dest>"
    severity := some .low
    line := line }

def benchmarkReference : Text := "https://www.cisecurity.org/benchmark/docker"

def missingOtherUserFinding : Issue :=
  { kind := .security
    message := "No non-root USER specified; add 'USER nonroot' or similar"
    severity := some .high
    references := [benchmarkReference] }

def missingHealthcheckFinding : Issue :=
  { kind := .security
    message := "No HEALTHCHECK; add one to ensure container health monitoring"
    severity := some .low
    references := [benchmarkReference] }

def earlyArgumentFinding (line : Nat) : Issue :=
  { kind := .security
    message := "ARG used before FROM; these values persist in image history"
    fix := some "Pass secrets with RUN --mount=type=secret instead of build arguments"
    severity := some .medium
    impact := some
      "Build argument values can be read back from the image history and build cache"
    line := some line }

def security (dockerfile : Dockerfile) : List Issue :=
  (if dockerfile.startsAsRoot ∨ ¬dockerfile.has "USER" then
    [rootUserFinding (dockerfile.firstLine? "USER")] else []) ++
  (dockerfile.firstRemoteAdd?.map fun add => remoteAddFinding add.line).toList ++
  (if dockerfile.exposedPorts ≠ [] then
    [exposedPortsFinding dockerfile.exposedPorts (dockerfile.firstLine? "EXPOSE")] else []) ++
  (if ¬dockerfile.hasOwnedCopy ∧ dockerfile.hasOtherUser then
    [copyOwnerFinding (dockerfile.firstLine? "COPY")] else []) ++
  (if dockerfile.hasOtherUser then [] else [missingOtherUserFinding]) ++
  (if dockerfile.has "HEALTHCHECK" then [] else [missingHealthcheckFinding]) ++
  (dockerfile.argumentBeforeStage?.map fun arg => earlyArgumentFinding arg.line).toList

end DockerfileLint.Check
