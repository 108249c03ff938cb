import DockerfileLint.Proofs.Dockerfile.BaseImage

namespace DockerfileLint.Dockerfile

theorem openAfter_concat_blank (pending : List Text) (roles : List LineRole) :
    openAfter pending (roles ++ [.blank]) = [] := by
  rw [openAfter_append]
  rfl

private theorem rolesOf_blankLine (text : Text) :
    rolesOf (text ++ ['\n', '\n']) = rolesOf (text ++ ['\n']) ++ [.blank] := by
  have started : Text.AtLineStart (text ++ ['\n']) := .inr (by simp)
  rw [← List.singleton_append, ← List.append_assoc, rolesOf_append started]
  rfl

/-- Nothing before a blank line reaches beyond it. -/
theorem instructionsOf_append_blankLine (front back : Text) :
    instructionsOf (front ++ ['\n', '\n'] ++ back) =
      instructionsOf (front ++ ['\n', '\n']) ++
        (instructionsOf back).map
          (·.moveLine (· + (front ++ ['\n', '\n']).count '\n')) := by
  have started : Text.AtLineStart (front ++ ['\n', '\n']) := .inr (by simp)
  rw [instructionsOf_append started, instructionsOf_eq_readRoles back, rolesOf_blankLine,
    openAfter_concat_blank]

/-- Parsing composes at a blank line, whatever instruction is open before it: the instructions
follow each other, those behind the blank line are counted on from it, and the first base image
that is known stays. -/
theorem parse_append_blankLine (path front back : Text) :
    (parse path (front ++ ['\n', '\n'] ++ back)).instructions =
        (parse path (front ++ ['\n', '\n'])).instructions ++
          (parse path back).instructions.map
            (·.moveLine (· + (front ++ ['\n', '\n']).count '\n')) ∧
      (parse path (front ++ ['\n', '\n'] ++ back)).baseImage =
        if (parse path (front ++ ['\n', '\n'])).baseImage ≠ [] then
          (parse path (front ++ ['\n', '\n'])).baseImage
        else (parse path back).baseImage := by
  have instructions := instructionsOf_append_blankLine front back
  constructor
  · rw [parse_instructions, parse_instructions, parse_instructions, instructions]
  · have moved : (ofInstructions path ((instructionsOf back).map
        (·.moveLine (· + (front ++ ['\n', '\n']).count '\n')))).baseImage =
        (parse path back).baseImage :=
      ofInstructions_baseImage_congr (Instruction.map_unnumbered_moveLine _ _)
    rw [parse, instructions, ofInstructions_append_baseImage, moved]
    rfl

/-- The instruction that is open before the blank line ends on it. -/
theorem parse_append_blankLine_open :
    let front : Text := "FROM a\nRUN b \\"
    let whole := parse [] (front ++ ['\n', '\n'] ++ "FROM c\nUSER d\n")
    whole.instructions.map (·.line) = [1, 3, 4, 5] ∧
      whole.instructions.map (·.source) =
        [("FROM a" : Text), ("RUN b" : Text), ("FROM c" : Text), ("USER d" : Text)] ∧
      whole.baseImage = ("a" : Text) := by
  intro front whole
  obtain ⟨instructions, baseImage⟩ := parse_append_blankLine [] front "FROM c\nUSER d\n"
  rw [instructions, baseImage]
  decide +kernel

end DockerfileLint.Dockerfile
