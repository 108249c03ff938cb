import DockerfileLint.Proofs.Dockerfile.Reprint

namespace DockerfileLint

namespace Instruction

variable {keyword : Text} {c : Char}

theorem ofSource_append_blank (line : Nat) (visible : ∀ d ∈ keyword, Text.isBlank d = false)
    (blank : Text.isBlank c = true) (rest : Text) :
    ofSource line (keyword ++ c :: rest) =
      make keyword (Text.trim rest) line (keyword ++ c :: rest) := by
  have kept : ∀ d ∈ keyword, (!Text.isBlank d) = true := by
    intro d member
    rw [visible d member, Bool.not_false]
  have name : (keyword ++ c :: rest).takeWhile (!Text.isBlank ·) = keyword := by
    rw [List.takeWhile_append_of_pos kept, List.takeWhile_cons, blank]
    exact List.append_nil keyword
  have behind : (keyword ++ c :: rest).dropWhile (!Text.isBlank ·) = [c] ++ rest := by
    rw [List.dropWhile_append_of_pos kept, List.dropWhile_cons, blank]
    rfl
  rw [ofSource, name, behind, Text.trim_blanks_append (List.forall_mem_singleton.mpr blank)]

end Instruction

namespace Dockerfile

variable {image : Text}

theorem isSource_stage (nonempty : image ≠ []) (visible : ∀ c ∈ image, Text.isBlank c = false) :
    IsSource (("FROM " : Text) ++ image) where
  trimmed := ⟨⟨'F', rfl, rfl⟩, (Text.trimmed_of_visible nonempty visible).ends.append _⟩
  unbroken := by
    intro member
    rcases List.mem_append.mp member with keyword | inside
    · exact absurd keyword (by decide)
    · have blank : Text.isBlank '\n' = true := rfl
      rw [visible '\n' inside] at blank
      cases blank
  visible := by simp

theorem instructionsOf_stage (nonempty : image ≠ [])
    (visible : ∀ c ∈ image, Text.isBlank c = false) (closed : image.getLast? ≠ some '\\') :
    instructionsOf (("FROM " : Text) ++ image ++ ("\n" : Text)) =
      [Instruction.make "FROM" image 1 (("FROM " : Text) ++ image)] := by
  have valid := isSource_stage nonempty visible
  have last : (("FROM " : Text) ++ image).getLast? ≠ some '\\' := by
    rwa [List.getLast?_append_of_ne_nil _ nonempty]
  have keyword : ∀ d ∈ ("FROM" : Text), Text.isBlank d = false := Text.visible_of_all rfl
  have gap : Text.isBlank ' ' = true := rfl
  have read : Instruction.ofSource 1 (("FROM " : Text) ++ image) =
      .make "FROM" (Text.trim image) 1 (("FROM " : Text) ++ image) :=
    Instruction.ofSource_append_blank 1 keyword gap image
  rw [(Text.trimmed_of_visible nonempty visible).trim_eq] at read
  exact (instructionsOf_line valid last).trans (congrArg List.singleton read)

theorem parse_stage_baseImage (path : Text) (nonempty : image ≠ [])
    (visible : ∀ c ∈ image, Text.isBlank c = false) (closed : image.getLast? ≠ some '\\') :
    (parse path (("FROM " : Text) ++ image ++ ("\n" : Text))).baseImage = image := by
  have named : (Instruction.make "FROM" image 1 (("FROM " : Text) ++ image)).namedImage = image := by
    have stage : Text.sameIgnoringCase (Text.uppercase "FROM") "FROM" = true := rfl
    refine (if_pos stage).trans ?_
    rw [Instruction.make, stageImage_eq_headD, Text.words_of_visible nonempty visible]
    rfl
  rw [parse, ofInstructions_baseImage, instructionsOf_stage nonempty visible closed,
    List.map_singleton, named, List.find?_cons_of_pos (by simpa using nonempty), Option.getD_some]

end Dockerfile

end DockerfileLint
