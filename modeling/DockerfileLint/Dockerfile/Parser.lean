import DockerfileLint.Dockerfile.Basic
import DockerfileLint.Text.Lines

/-! Reading a Dockerfile line by line.  A backslash at the end of a line continues the instruction
on the next one; a comment is passed over wherever it stands, and a blank line ends an instruction
that was left open.  Reading never fails, but an instruction that is still open at the end of the
text is lost. -/

namespace DockerfileLint

/-- What a line contributes to the instruction being read. -/
inductive LineRole where
  | blank
  | comment
  /-- A line that ends in a backslash; `fragment` is what stands before the backslash. -/
  | continued (fragment : Text)
  /-- Any other line; it ends its instruction. -/
  | final (fragment : Text)
deriving Repr, DecidableEq

/-- Blanks at the ends of a line never matter, and only the last backslash continues it. -/
def LineRole.ofLine (line : Text) : LineRole :=
  let trimmed := Text.trim line
  if trimmed = [] then .blank
  else if trimmed.head? = some '#' then .comment
  else if trimmed.getLast? = some '\\' then .continued (Text.trimEnd trimmed.dropLast)
  else .final trimmed

namespace Dockerfile

def joinFragments (line : Nat) (fragments : List Text) : Instruction :=
  Instruction.ofSource line (Text.joinWith [' '] fragments)

/-- Reads the lines from number `line` on, with the fragments of the instruction still open. -/
def scan (line : Nat) (pending : List Text) : List Text → List Instruction
  | [] => []
  | text :: rest =>
    match LineRole.ofLine text with
    | .blank =>
      if pending = [] then scan (line + 1) [] rest
      else joinFragments line pending :: scan (line + 1) [] rest
    | .comment => scan (line + 1) pending rest
    | .continued fragment =>
      scan (line + 1) (if fragment = [] then pending else pending ++ [fragment]) rest
    | .final fragment => joinFragments line (pending ++ [fragment]) :: scan (line + 1) [] rest

/-- The instructions of a text, with lines counted from one. -/
def instructionsOf (content : Text) : List Instruction := scan 1 [] (Text.lines content)

def parse (path content : Text) : Dockerfile := ofInstructions path (instructionsOf content)

end Dockerfile

end DockerfileLint
