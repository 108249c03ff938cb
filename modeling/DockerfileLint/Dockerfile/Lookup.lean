import DockerfileLint.Dockerfile.Basic
import DockerfileLint.Dockerfile.Traits

namespace DockerfileLint

namespace Dockerfile

def withKeyword (dockerfile : Dockerfile) (keyword : Text) : List Instruction :=
  dockerfile.instructions.filter (·.is keyword)

def first? (dockerfile : Dockerfile) (keyword : Text) : Option Instruction :=
  dockerfile.instructions.find? (·.is keyword)

def firstLine? (dockerfile : Dockerfile) (keyword : Text) : Option Nat :=
  (dockerfile.first? keyword).map (·.line)

def has (dockerfile : Dockerfile) (keyword : Text) : Bool :=
  dockerfile.instructions.any (·.is keyword)

/-- Only the first `USER` counts, and it must name root itself. -/
def startsAsRoot (dockerfile : Dockerfile) : Bool :=
  (dockerfile.first? "USER").any (·.namesRoot)

/-- Some `USER` names someone other than root. -/
def hasOtherUser (dockerfile : Dockerfile) : Bool :=
  (dockerfile.withKeyword "USER").any (!·.namesRoot)

def firstRemoteAdd? (dockerfile : Dockerfile) : Option Instruction :=
  dockerfile.instructions.find? fun i => i.is "ADD" && i.mentionsUrl

def firstContextCopy? (dockerfile : Dockerfile) : Option Instruction :=
  dockerfile.instructions.find? fun i => i.is "COPY" && i.hasLoneDot

def hasOwnedCopy (dockerfile : Dockerfile) : Bool :=
  (dockerfile.withKeyword "COPY").any (·.hasChown)

/-- The first `ARG` with no `FROM` before it. -/
def argumentBeforeStage? (dockerfile : Dockerfile) : Option Instruction :=
  (dockerfile.instructions.takeWhile (!·.is "FROM")).find? (·.is "ARG")

/-- The ports of all `EXPOSE` instructions, as written. -/
def exposedPorts (dockerfile : Dockerfile) : List Text :=
  (dockerfile.withKeyword "EXPOSE").flatMap (·.tokens)

end Dockerfile

end DockerfileLint
