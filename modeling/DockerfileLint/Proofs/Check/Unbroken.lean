import DockerfileLint.Proofs.Check.Findings
import DockerfileLint.Proofs.Dockerfile.BaseImage

namespace DockerfileLint

namespace Text

variable {c : Char}

/-- A text that is written out holds the characters that are written. -/
theorem notMem_written {characters : List Char} (absent : c ∉ characters) :
    c ∉ (String.ofList characters).toList := by
  rwa [String.toList_ofList]

theorem notMem_ofNat (other : c.isDigit = false) (n : Nat) : c ∉ ofNat n := by
  intro inside
  have digit : c.isDigit = true := Nat.isDigit_of_mem_toDigits (by decide) (by decide) inside
  rw [other] at digit
  cases digit

end Text

def Unbroken (texts : List Text) : Prop := ∀ text ∈ texts, '\n' ∉ text

namespace Unbroken

variable {text : Text} {rest : List Text}

theorem nil : Unbroken [] := List.forall_mem_nil _

theorem cons (first : '\n' ∉ text) (others : Unbroken rest) : Unbroken (text :: rest) :=
  List.forall_mem_cons.mpr ⟨first, others⟩

theorem written {characters : List Char} (first : '\n' ∉ characters) (others : Unbroken rest) :
    Unbroken ((String.ofList characters).toList :: rest) :=
  cons (Text.notMem_written first) others

end Unbroken

/-- What a report prints of a finding without looking for lines in it: everything but the fix. -/
def Issue.phrases (issue : Issue) : List Text :=
  issue.message :: issue.impact.toList ++ issue.references

namespace Check

open Text (notMem_written notMem_ofNat)

variable {dockerfile : Dockerfile} {hasIgnoreFile : Bool} {issue : Issue} {topic : Topic}

theorem newline_notMem_megabytes (bytes : Nat) : '\n' ∉ megabytes bytes :=
  List.not_mem_append (notMem_ofNat rfl _) (notMem_written (by decide))

theorem BaseImageFinding.unbroken {image : Text} (word : '\n' ∉ image)
    (reported : BaseImageFinding image issue) : Unbroken issue.phrases := by
  cases reported with
  | note =>
    simp only [Issue.phrases, baseImageNote]
    refine .cons ?_ (.written (by decide) (.written (by decide) .nil))
    exact List.not_mem_append (notMem_written (by decide)) word
  | @large name alternative known =>
    simp only [Issue.phrases, largeImageWarning]
    have names : ∀ entry ∈ Image.largeImages, '\n' ∉ entry.1 := by decide
    have unbroken : '\n' ∉ name := names _ (List.mem_of_find?_eq_some known)
    refine .cons ?_ (.written (by decide) (.written (by decide) (.written (by decide) .nil)))
    exact List.not_mem_append (List.not_mem_append (notMem_written (by decide)) unbroken)
      (notMem_written (by decide))
  | unpinned floats =>
    simp only [Issue.phrases, unpinnedWarning]
    exact .written (by decide) (.written (by decide) (.written (by decide) .nil))

theorem PracticeFinding.unbroken
    (reported : PracticeFinding dockerfile hasIgnoreFile topic issue) :
    Unbroken issue.phrases := by
  cases reported with
  | contextCopy found =>
    simp only [Issue.phrases, contextCopyWarning]
    exact .written (by decide) (.written (by decide) .nil)
  | ignoreFile found missing =>
    simp only [Issue.phrases, missingIgnoreFileWarning]
    exact .written (by decide) (.written (by decide) (.written (by decide) .nil))
  | add found =>
    simp only [Issue.phrases, addWarning]
    exact .written (by decide) (.written (by decide) .nil)
  | healthcheck missing =>
    simp only [Issue.phrases, missingHealthcheckWarning]
    exact .written (by decide) (.written (by decide) .nil)
  | user missing =>
    simp only [Issue.phrases, missingUserWarning]
    exact .written (by decide) .nil
  | @packageCache run manager present named known leaves =>
    simp only [Issue.phrases, packageCacheWarning]
    have names : ∀ manager ∈ PackageManager.known, '\n' ∉ manager.name := by decide
    refine .cons ?_ (.written (by decide) .nil)
    exact List.not_mem_append
      (List.not_mem_append (notMem_written (by decide)) (names manager known))
      (notMem_written (by decide))
  | floatingTag floats =>
    simp only [Issue.phrases, unpinnedWarning]
    exact .written (by decide) (.written (by decide) (.written (by decide) .nil))

/-- How the message on a layer begins, with the verb between the layer and the size. -/
theorem newline_notMem_layer (index bytes : Nat) {verb : Text} (unbroken : '\n' ∉ verb) :
    '\n' ∉ ("Layer " : Text) ++ Text.ofNat index ++ verb ++ megabytes bytes := by
  have named : '\n' ∉ ("Layer " : Text) ++ Text.ofNat index :=
    List.not_mem_append (notMem_written (by decide)) (notMem_ofNat rfl index)
  exact List.not_mem_append (List.not_mem_append named unbroken) (newline_notMem_megabytes bytes)

theorem LayerFinding.unbroken {advice : Text} (reported : LayerFinding advice issue) :
    Unbroken issue.phrases := by
  cases reported with
  | large index bytes =>
    simp only [Issue.phrases, largeLayerWarning]
    refine .cons ?_ (.written (by decide) (.written (by decide) .nil))
    have verb : '\n' ∉ (" adds " : Text) := notMem_written (by decide)
    exact List.not_mem_append (newline_notMem_layer index bytes verb)
      (notMem_written (by decide))
  | growing index growth =>
    simp only [Issue.phrases, growingLayerWarning]
    refine .cons ?_ (.written (by decide) .nil)
    have verb : '\n' ∉ (" grows by " : Text) := notMem_written (by decide)
    exact List.not_mem_append (newline_notMem_layer index growth verb)
      (notMem_written (by decide))

theorem SecurityFinding.unbroken (reported : SecurityFinding dockerfile topic issue) :
    Unbroken issue.phrases := by
  cases reported with
  | rootUser root =>
    simp only [Issue.phrases, rootUserFinding]
    exact .written (by decide) (.written (by decide) (.written (by decide) .nil))
  | remoteAdd found =>
    simp only [Issue.phrases, remoteAddFinding]
    exact .written (by decide) (.written (by decide) .nil)
  | exposedPorts exposed =>
    simp only [Issue.phrases, exposedPortsFinding]
    exact .written (by decide) (.written (by decide) .nil)
  | copyOwner unowned other =>
    simp only [Issue.phrases, copyOwnerFinding]
    exact .written (by decide) .nil
  | otherUser missing =>
    simp only [Issue.phrases, missingOtherUserFinding]
    exact .written (by decide) (.written (by decide) .nil)
  | healthMonitoring missing =>
    simp only [Issue.phrases, missingHealthcheckFinding]
    exact .written (by decide) (.written (by decide) .nil)
  | earlyArgument found =>
    simp only [Issue.phrases, earlyArgumentFinding]
    exact .written (by decide) (.written (by decide) .nil)

end Check

end DockerfileLint
