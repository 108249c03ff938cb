import DockerfileLint.Text.Blank
import DockerfileLint.Text.Uppercase

namespace DockerfileLint

/-- An instruction ends on the line `line`; `source` is its text with continuation lines joined. -/
structure Instruction where
  keyword : Text
  arguments : Text
  line : Nat
  source : Text
deriving Repr, DecidableEq

namespace Instruction

/-- The keyword is kept in upper case; the other parts are kept as they are. -/
def make (keyword arguments : Text) (line : Nat) (source : Text) : Instruction :=
  { keyword := Text.uppercase keyword, arguments, line, source }

/-- The keyword of a joined line ends at its first blank, and the arguments are the trimmed rest. -/
def ofSource (line : Nat) (source : Text) : Instruction :=
  let rest := source.dropWhile (!Text.isBlank ·)
  make (source.takeWhile (!Text.isBlank ·)) (Text.trim rest) line source

/-- Whether the instruction has this keyword, in any letter case. -/
def is (instruction : Instruction) (keyword : Text) : Bool :=
  Text.sameIgnoringCase instruction.keyword keyword

def tokens (instruction : Instruction) : List Text := Text.words instruction.arguments

end Instruction

end DockerfileLint
