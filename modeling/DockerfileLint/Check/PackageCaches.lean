import DockerfileLint.Dockerfile.Instruction
import DockerfileLint.Issue
import DockerfileLint.Package

namespace DockerfileLint.Check

def packageCacheWarning (manager : PackageManager) (line : Nat) : Issue :=
  { kind := .warning
    message := "Package installation without cleanup (" ++ manager.name ++
      "); adds unnecessary size"
    fix := some manager.advice
    severity := some .medium
    impact := some "Package manager caches stay in the layer and inflate the image"
    line := some line }

/-- Each `RUN` makes a layer of its own, so it is judged by its own command alone. -/
def packageCaches (instructions : List Instruction) : List Issue :=
  (instructions.filter (·.is "RUN")).flatMap fun run =>
    (PackageManager.known.filter (·.leavesCache run.arguments)).map
      (packageCacheWarning · run.line)

end DockerfileLint.Check
