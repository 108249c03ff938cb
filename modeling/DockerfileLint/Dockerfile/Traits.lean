import DockerfileLint.Dockerfile.Instruction

namespace DockerfileLint

namespace Instruction

def namesRoot (instruction : Instruction) : Bool :=
  let user := Text.trim instruction.arguments
  user == "root" || user == "0"

/-- The arguments mention an `http` or `https` address. -/
def mentionsUrl (instruction : Instruction) : Bool :=
  Text.contains "http://" instruction.arguments || Text.contains "https://" instruction.arguments

/-- A dot stands alone after something else: `COPY . .`, but not `COPY . /app`. -/
def hasLoneDot (instruction : Instruction) : Bool :=
  Text.contains " . " instruction.arguments || (" ." : Text).isSuffixOf instruction.arguments

/-- One of the words is the flag `--chown`, with or without a value. -/
def hasChown (instruction : Instruction) : Bool :=
  instruction.tokens.any fun token => token == "--chown" || ("--chown=" : Text).isPrefixOf token

end Instruction

end DockerfileLint
