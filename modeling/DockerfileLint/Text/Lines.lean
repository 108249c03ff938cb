import DockerfileLint.Text.Basic

/-! The lines of a text: a line feed ends a line, and a carriage return right before it belongs to
the ending.  What follows the last line feed is a line only if it is not empty, and it keeps its
carriage return because nothing ends it. -/

namespace DockerfileLint.Text

def dropReturn (line : Text) : Text :=
  if line.getLast? = some '\r' then line.dropLast else line

/-- Reads the stretches between line feeds as lines: each but the last was ended by a line feed. -/
def linesOfPieces : List Text → List Text
  | [] => []
  | [last] => if last.isEmpty then [] else [last]
  | line :: next :: rest => dropReturn line :: linesOfPieces (next :: rest)

def lines (text : Text) : List Text := linesOfPieces (text.splitOn '\n')

end DockerfileLint.Text
