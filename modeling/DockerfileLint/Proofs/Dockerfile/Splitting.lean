import DockerfileLint.Proofs.Dockerfile.Layout
import DockerfileLint.Proofs.Dockerfile.Reflow

namespace DockerfileLint

/-- A line, and the lines that it becomes when it is broken at some of its spaces, from left to
right.  Each of them stands between two visible characters, the second of which is no number sign.
A backslash at the end of the line takes its place; other blanks may stand around the backslash
and in front of what follows, which may be broken in its turn. -/
inductive Text.BrokenInto : Text → Text → Prop where
  | whole (line : Text) : BrokenInto line line
  | cut {front back gap pad indent broken : Text} (ends : EndsVisibly front)
      (starts : StartsVisibly back) (visible : back.head? ≠ some '#') (gapPads : IsPadding gap)
      (padPads : IsPadding pad) (indentPads : IsPadding indent)
      (rest : BrokenInto (indent ++ back) broken) :
      BrokenInto (front ++ [' '] ++ back) (front ++ gap ++ ['\\'] ++ pad ++ ['\n'] ++ broken)

namespace Dockerfile

variable {before front back gap pad indent line broken after : Text}

/-- What makes a line breakable at a space besides the characters around it: it is one line, and no
comment. -/
theorem Breakable.of_line (unbroken : '\n' ∉ front ++ [' '] ++ back)
    (visible : (Text.trim (front ++ [' '] ++ back)).head? ≠ some '#')
    (ends : Text.EndsVisibly front) (starts : Text.StartsVisibly back)
    (first : back.head? ≠ some '#') : Breakable front back where
  frontUnbroken := fun member => unbroken (by simp [member])
  frontEnds := ends
  frontVisible := by rwa [List.append_assoc, ends.head?_trim_append] at visible
  backUnbroken := fun member => unbroken (by simp [member])
  backStarts := starts
  backVisible := first

/-- A continued line has the same role with any blanks around its backslash. -/
theorem rolesOf_continued (unbroken : '\n' ∉ front) (ends : Text.EndsVisibly front)
    (visible : (Text.trim front).head? ≠ some '#') (gapPads : Text.IsPadding gap)
    (padPads : Text.IsPadding pad) (text : Text) :
    rolesOf (front ++ gap ++ ['\\'] ++ pad ++ ['\n'] ++ text) =
      .continued (Text.trimStart front) :: rolesOf text := by
  have continuedUnbroken : '\n' ∉ front ++ gap ++ ['\\'] ++ pad := by
    simp [unbroken, gapPads.unbroken, padPads.unbroken]
  rw [List.append_assoc _ ['\n'], List.singleton_append, rolesOf_ended continuedUnbroken,
    LineRole.ofLine_continued ends visible gapPads.blank padPads.blank]

theorem instructionsOf_cut (started : Text.AtLineStart before) (breakable : Breakable front back)
    (ended : Text.AtLineEnd after) (gapPads : Text.IsPadding gap) (padPads : Text.IsPadding pad)
    (indentPads : Text.IsPadding indent) :
    instructionsOf (before ++ (front ++ gap ++ ['\\'] ++ pad ++ ['\n'] ++ (indent ++ back)) ++ after) =
      (instructionsOf (before ++ (front ++ [' '] ++ back) ++ after)).map
        (·.moveLine fun line => if before.count '\n' < line then line + 1 else line) := by
  have space : Text.IsPadding [' '] := Text.isPadding_of_all rfl
  have nothing : Text.IsPadding [] := Text.isPadding_of_all rfl
  -- The blanks are not seen, so this is the break with one space in front of the backslash.
  have plain : rolesOf (front ++ gap ++ ['\\'] ++ pad ++ ['\n'] ++ (indent ++ back ++ after)) =
      rolesOf (front ++ [' '] ++ ['\\'] ++ [] ++ ['\n'] ++ (indent ++ back ++ after)) := by
    rw [rolesOf_continued breakable.frontUnbroken breakable.frontEnds breakable.frontVisible
        gapPads padPads,
      rolesOf_continued breakable.frontUnbroken breakable.frontEnds breakable.frontVisible
        space nothing]
  have broken := instructionsOf_break started breakable ended indentPads.blank indentPads.unbroken
  simp only [List.append_assoc] at plain broken ⊢
  rw [instructionsOf_append started, plain, ← instructionsOf_append started]
  exact broken

private theorem moveBelow_twice (last more : Nat) :
    (fun line => if last + 1 < line then line + more else line) ∘
        (fun line => if last < line then line + 1 else line) =
      fun line => if last < line then line + (more + 1) else line := by
  funext line
  rw [Function.comp_apply]
  by_cases behind : last < line
  · rw [if_pos behind, if_pos (Nat.add_lt_add_right behind 1), if_pos behind, Nat.add_assoc,
      Nat.add_comm 1]
  · rw [if_neg behind, if_neg (by omega), if_neg behind]

/-- Breaking a line at any of its spaces changes no instruction. -/
theorem instructionsOf_brokenInto (ended : Text.AtLineEnd after)
    (split : Text.BrokenInto line broken) (started : Text.AtLineStart before)
    (unbroken : '\n' ∉ line) (visible : (Text.trim line).head? ≠ some '#') :
    instructionsOf (before ++ broken ++ after) =
      (instructionsOf (before ++ line ++ after)).map (·.moveLine fun number =>
        if before.count '\n' < number then number + broken.count '\n' else number) := by
  induction split generalizing before with
  | whole line =>
    have nowhere : (fun number => if before.count '\n' < number then number + line.count '\n'
        else number) = id := by
      funext number
      rw [List.count_eq_zero.mpr unbroken, Nat.add_zero, ite_self, id]
    rw [nowhere]
    exact (List.map_id _).symm
  | @cut front back gap pad indent broken ends starts first gapPads padPads indentPads rest ih =>
    let ahead := front ++ gap ++ ['\\'] ++ pad ++ ['\n']
    have breakable := Breakable.of_line unbroken visible ends starts first
    have later : Text.AtLineStart (before ++ ahead) := by
      rw [← List.append_assoc]
      exact .inr List.getLast?_concat
    have nextUnbroken : '\n' ∉ indent ++ back := by
      simp [indentPads.unbroken, breakable.backUnbroken]
    have nextVisible : (Text.trim (indent ++ back)).head? ≠ some '#' := by
      rw [Text.trim_blanks_append indentPads.blank, starts.trim_eq, starts.head?_trimEnd]
      exact first
    have counted : ahead.count '\n' = 1 := by
      simp [ahead, List.count_eq_zero.mpr breakable.frontUnbroken,
        List.count_eq_zero.mpr gapPads.unbroken, List.count_eq_zero.mpr padPads.unbroken]
    have above : (before ++ ahead).count '\n' = before.count '\n' + 1 := by
      rw [List.count_append, counted]
    have total : (ahead ++ broken).count '\n' = broken.count '\n' + 1 := by
      rw [List.count_append, counted, Nat.add_comm]
    calc instructionsOf (before ++ (ahead ++ broken) ++ after)
        = instructionsOf (before ++ ahead ++ broken ++ after) := by rw [← List.append_assoc before]
      _ = (instructionsOf (before ++ ahead ++ (indent ++ back) ++ after)).map _ :=
          ih later nextUnbroken nextVisible
      _ = ((instructionsOf (before ++ (front ++ [' '] ++ back) ++ after)).map _).map _ := by
          rw [List.append_assoc before,
            instructionsOf_cut started breakable ended gapPads padPads indentPads]
      _ = (instructionsOf (before ++ (front ++ [' '] ++ back) ++ after)).map _ := by
          rw [Instruction.map_moveLine_moveLine, above, moveBelow_twice, total]

end Dockerfile

end DockerfileLint
