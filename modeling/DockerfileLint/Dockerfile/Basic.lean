import DockerfileLint.Dockerfile.Instruction

namespace DockerfileLint

/-- The path is the Unicode text by which it is shown, so what a path of the system may hold beyond
that is lost. -/
structure Dockerfile where
  path : Text
  instructions : List Instruction
  baseImage : Text
deriving Repr, DecidableEq

namespace Dockerfile

/-- A Dockerfile without instructions has the empty text for a base image. -/
def empty (path : Text) : Dockerfile := { path, instructions := [], baseImage := [] }

/-- The image that the arguments of a `FROM` name: the first word before the stage alias.  An `AS`
in first place has no word before it and is then the image itself. -/
def stageImage (arguments : Text) : Text :=
  let words := Text.words arguments
  match words.takeWhile (!Text.sameIgnoringCase "AS" ·) with
  | image :: _ => image
  | [] => words.headD []

/-- Appends an instruction; a `FROM` sets the base image if none is known yet. -/
def push (dockerfile : Dockerfile) (instruction : Instruction) : Dockerfile :=
  { dockerfile with
    instructions := dockerfile.instructions ++ [instruction]
    baseImage :=
      if instruction.is "FROM" ∧ dockerfile.baseImage.isEmpty then stageImage instruction.arguments
      else dockerfile.baseImage }

def ofInstructions (path : Text) (instructions : List Instruction) : Dockerfile :=
  instructions.foldl push (empty path)

@[simp] theorem push_path (dockerfile : Dockerfile) (instruction : Instruction) :
    (dockerfile.push instruction).path = dockerfile.path := rfl

@[simp] theorem push_instructions (dockerfile : Dockerfile) (instruction : Instruction) :
    (dockerfile.push instruction).instructions = dockerfile.instructions ++ [instruction] := rfl

theorem push_baseImage_of_ne_nil {dockerfile : Dockerfile} (known : dockerfile.baseImage ≠ [])
    (instruction : Instruction) :
    (dockerfile.push instruction).baseImage = dockerfile.baseImage := by
  simp [push, List.isEmpty_iff, known]

private theorem foldl_push_instructions (dockerfile : Dockerfile)
    (instructions : List Instruction) :
    (instructions.foldl push dockerfile).instructions =
      dockerfile.instructions ++ instructions := by
  induction instructions generalizing dockerfile with
  | nil => simp
  | cons first rest ih => simp [ih]

@[simp] theorem ofInstructions_instructions (path : Text) (instructions : List Instruction) :
    (ofInstructions path instructions).instructions = instructions := by
  simp [ofInstructions, foldl_push_instructions, empty]

private theorem foldl_push_path (dockerfile : Dockerfile) (instructions : List Instruction) :
    (instructions.foldl push dockerfile).path = dockerfile.path := by
  induction instructions generalizing dockerfile with
  | nil => rfl
  | cons first rest ih => rw [List.foldl_cons, ih, push_path]

@[simp] theorem ofInstructions_path (path : Text) (instructions : List Instruction) :
    (ofInstructions path instructions).path = path :=
  foldl_push_path (empty path) instructions

end Dockerfile

end DockerfileLint
