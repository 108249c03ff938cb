import DockerfileLint.Proofs.Check.Agreement
import DockerfileLint.Proofs.Check.Clean
import DockerfileLint.Proofs.Dockerfile.Stage
import DockerfileLint.Proofs.Image.Name

/-! What becomes of a Dockerfile whose base image is pinned as the warning about a floating tag suggests.
The reference in the warning is read back as written and pins a version, and its name is that of the
image it replaces, so nothing else changes in what is said about it. -/

namespace DockerfileLint

namespace Image

variable {reference kept : Text}

/-- What is left of a reference without one `:latest` at its end. -/
def KeptOf (reference kept : Text) : Prop :=
  reference = kept ++ (":latest" : Text) ∨ ¬(":latest" : Text) <:+ reference ∧ kept = reference

theorem keptOf_withoutLatest (reference : Text) : KeptOf reference (withoutLatest reference) := by
  rw [withoutLatest]
  cases found : (":latest" : Text).isSuffixOf? reference with
  | some kept => exact .inl (List.isSuffixOf?_eq_some_iff_append_eq.mp found).symm
  | none =>
    refine .inr ⟨?_, rfl⟩
    rintro ⟨front, whole⟩
    rw [List.isSuffixOf?_eq_some_iff_append_eq.mpr whole] at found
    cases found

theorem KeptOf.isPrefix (split : KeptOf reference kept) : kept <+: reference := by
  rcases split with rfl | ⟨_, rfl⟩
  · exact List.prefix_append kept _
  · exact List.prefix_rfl

theorem KeptOf.bareName_eq (split : KeptOf reference kept) : bareName kept = bareName reference := by
  rcases split with rfl | ⟨_, rfl⟩
  · exact (bareName_append_tag kept (by decide) (by decide)).symm
  · rfl

end Image

namespace Check

open Dockerfile (parse)
open Image (bareName)

variable {dockerfile : Dockerfile} {image name alternative : Text} {hasIgnoreFile : Bool}
variable {issue : Issue}

theorem bareName_pinnedExample (image : Text) : bareName (pinnedExample image) = bareName image := by
  have tag : bareName (pinnedExample image) = bareName (Image.withoutLatest image) :=
    Image.bareName_append_tag _ (by decide) (by decide)
  rw [tag, (Image.keptOf_withoutLatest image).bareName_eq]

theorem getLast?_pinnedExample (image : Text) : (pinnedExample image).getLast? = some '3' :=
  List.getLast?_append_of_ne_nil _ (List.cons_ne_nil _ _)

/-- A fixed version does not end in the last letter of `:latest`. -/
theorem isUnpinned_pinnedExample (image : Text) :
    Image.isUnpinned (pinnedExample image) = false := by
  apply Image.isUnpinned_eq_false_iff.mpr
  refine ⟨List.mem_append_right _ List.mem_cons_self, ?_⟩
  intro latest
  obtain ⟨front, whole⟩ := latest
  have letter : (pinnedExample image).getLast? = some 't' := by
    rw [← whole]
    exact List.getLast?_append_of_ne_nil front (List.cons_ne_nil _ _)
  rw [getLast?_pinnedExample] at letter
  cases letter

theorem visible_pinnedExample (visible : ∀ c ∈ image, Text.isBlank c = false) :
    ∀ c ∈ pinnedExample image, Text.isBlank c = false := by
  have version : ∀ c ∈ (":1.2.3" : Text), Text.isBlank c = false := Text.visible_of_all rfl
  intro c member
  rcases List.mem_append.mp member with kept | tag
  · exact visible c ((Image.keptOf_withoutLatest image).isPrefix.subset kept)
  · exact version c tag

theorem parse_pinnedExample_baseImage (path : Text) (visible : ∀ c ∈ image, Text.isBlank c = false) :
    (parse path (("FROM " : Text) ++ pinnedExample image ++ ("\n" : Text))).baseImage =
      pinnedExample image := by
  have nonempty : pinnedExample image ≠ [] :=
    List.append_ne_nil_of_right_ne_nil _ (List.cons_ne_nil _ _)
  apply Dockerfile.parse_stage_baseImage path nonempty (visible_pinnedExample visible)
  rw [getLast?_pinnedExample]
  decide

theorem exists_largeImageWarning_mem_iff :
    (∃ line, (largeImageWarning dockerfile.baseImage name alternative).atLine line ∈
        baseImage dockerfile) ↔
      Image.largeImage? dockerfile.baseImage = some (name, alternative) := by
  constructor
  · rintro ⟨line, member⟩
    obtain ⟨finding, reported, same⟩ := mem_baseImage_iff.mp member
    cases reported with
    | note =>
      have kinds : IssueKind.info = .warning := congrArg Issue.kind same
      cases kinds
    | @large otherName otherAlternative known =>
      have messages := congrArg Issue.message same
      have fixes := Option.some.inj (congrArg Issue.fix same)
      obtain rfl : otherName = name :=
        List.append_cancel_left (List.append_cancel_right messages)
      obtain rfl : otherAlternative = alternative :=
        List.append_cancel_left (List.append_cancel_right fixes)
      exact known
    | unpinned floats =>
      have severities : some Severity.high = some .medium := congrArg Issue.severity same
      cases severities
  · intro known
    exact ⟨_, mem_baseImage_iff.mpr ⟨_, .large known, rfl⟩⟩

theorem fix_of_isAbout_floatingTag (about : issue.IsAbout .floatingTag)
    (member : issue ∈ baseImage dockerfile ∨ issue ∈ bestPractices dockerfile hasIgnoreFile) :
    issue.fix = (unpinnedWarning dockerfile.baseImage).fix := by
  rcases member with located | listed
  · rw [(eq_unpinnedWarning_of_mem_baseImage located about).2]
    rfl
  · cases PracticeFinding.of_mem listed about with
    | floatingTag floats => rfl

theorem not_reports_floatingTag (pins : Image.isUnpinned dockerfile.baseImage = false) :
    ¬Reports (baseImage dockerfile) .floatingTag := by
  intro reported
  obtain ⟨warning, member, about⟩ := reported
  have floats := (eq_unpinnedWarning_of_mem_baseImage member about).1
  rw [pins] at floats
  cases floats

/-- The advice on a floating tag can be followed. -/
theorem pinnedExample_followed {path content : Text} {hasIgnoreFile : Bool} {issue : Issue}
    (member : issue ∈ baseImage (parse path content) ∨
      issue ∈ bestPractices (parse path content) hasIgnoreFile)
    (about : issue.IsAbout .floatingTag) :
    let original := parse path content
    ∃ kept, Image.KeptOf original.baseImage kept ∧
      let pinned := kept ++ (":1.2.3" : Text)
      issue.fix = some (("Specify a fixed version tag for your base image, e.g., '" : Text) ++
        pinned ++ ("'" : Text)) ∧
      ∀ (otherPath : Text) (otherIgnoreFile : Bool),
        let followed := parse otherPath (("FROM " : Text) ++ pinned ++ ("\n" : Text))
        followed.baseImage = pinned ∧
          ¬Reports (baseImage followed) .floatingTag ∧
          ¬Reports (bestPractices followed otherIgnoreFile) .floatingTag ∧
          bareName pinned = bareName original.baseImage ∧
          ∀ name alternative : Text,
            (∃ line, (largeImageWarning pinned name alternative).atLine line ∈ baseImage followed) ↔
              ∃ line, (largeImageWarning original.baseImage name alternative).atLine line ∈
                baseImage original := by
  intro original
  have visible : ∀ c ∈ original.baseImage, Text.isBlank c = false :=
    Dockerfile.visible_ofInstructions_baseImage path _
  have fix := fix_of_isAbout_floatingTag about member
  refine ⟨Image.withoutLatest original.baseImage, Image.keptOf_withoutLatest _, fix, ?_⟩
  intro otherPath otherIgnoreFile followed
  have read : followed.baseImage = pinnedExample original.baseImage :=
    parse_pinnedExample_baseImage otherPath visible
  have settled : ¬Reports (baseImage followed) .floatingTag := by
    apply not_reports_floatingTag
    rw [read]
    exact isUnpinned_pinnedExample original.baseImage
  have names := bareName_pinnedExample original.baseImage
  refine ⟨read, settled, ?_, names, ?_⟩
  · intro reported
    exact settled (reports_floatingTag_iff.mpr reported)
  · intro name alternative
    have large := @exists_largeImageWarning_mem_iff followed name alternative
    rw [read, Image.largeImage?_congr names] at large
    exact large.trans exists_largeImageWarning_mem_iff.symm

/-- Only one of two `:latest` is taken off. -/
theorem pinnedExample_followed_latest :
    let original := parse "Dockerfile" "FROM registry.local:5000/node:latest:latest AS build\n"
    let followed := parse "Dockerfile" "FROM registry.local:5000/node:latest:1.2.3\n"
    (unpinnedWarning original.baseImage).atLine (some 1) ∈ baseImage original ∧
      followed.baseImage = ("registry.local:5000/node:latest:1.2.3" : Text) ∧
      ¬Reports (baseImage followed) .floatingTag ∧
      ∃ line, (largeImageWarning ("registry.local:5000/node:latest:1.2.3" : Text) "node"
        "node:alpine").atLine line ∈ baseImage followed := by
  intro original followed
  have image : original.baseImage = ("registry.local:5000/node:latest:latest" : Text) := by
    decide +kernel
  have line : original.firstLine? "FROM" = some 1 := by decide +kernel
  have ended : (":latest" : Text) <:+ original.baseImage := by
    rw [image]
    exact List.isSuffixOf_iff_suffix.mp rfl
  have floats : Image.isUnpinned original.baseImage = true := by
    rw [image]
    decide +kernel
  have known : Image.largeImage? original.baseImage =
      some (("node" : Text), ("node:alpine" : Text)) := by
    rw [image]
    decide +kernel
  have warned : (unpinnedWarning original.baseImage).atLine (some 1) ∈ baseImage original := by
    rw [← line]
    exact mem_baseImage_iff.mpr ⟨_, .unpinned floats, rfl⟩
  have large : ∃ line, (largeImageWarning original.baseImage "node" "node:alpine").atLine line ∈
      baseImage original :=
    exists_largeImageWarning_mem_iff.mpr known
  have listed : PracticeFinding original false .floatingTag (unpinnedWarning original.baseImage) :=
    .floatingTag floats
  obtain ⟨kept, split, _, advised⟩ :=
    @pinnedExample_followed _ _ false _ (.inl warned) listed.isAbout
  obtain rfl : kept = ("registry.local:5000/node:latest" : Text) := by
    rcases split with whole | ⟨unended, _⟩
    · exact List.append_cancel_right (whole.symm.trans image)
    · exact absurd ended unended
  have pinned : ("registry.local:5000/node:latest" : Text) ++ (":1.2.3" : Text) =
      "registry.local:5000/node:latest:1.2.3" := by
    decide +kernel
  have written : ("FROM " : Text) ++ ("registry.local:5000/node:latest:1.2.3" : Text) ++
      ("\n" : Text) = "FROM registry.local:5000/node:latest:1.2.3\n" := by
    decide +kernel
  have outcome := advised "Dockerfile" false
  rw [pinned, written] at outcome
  obtain ⟨read, settled, _, _, same⟩ := outcome
  exact ⟨warned, read, settled, (same _ _).mpr large⟩

end Check

end DockerfileLint
