import DockerfileLint.Proofs.Check.Location
import DockerfileLint.Proofs.Dockerfile.Splitting

namespace DockerfileLint.Check

open Dockerfile (parse)

/-- A layer that keeps the cache of a package manager: the `RUN` that makes it and the manager, each
with its place in the list that it comes from. -/
structure CacheLeak where
  index : Nat
  run : Instruction
  rank : Nat
  manager : PackageManager

namespace CacheLeak

variable {instructions : List Instruction} {leak : CacheLeak}

def warning (leak : CacheLeak) : Issue := packageCacheWarning leak.manager leak.run.line

/-- Leaks are ordered by instruction, and those of one instruction by manager. -/
def Precedes (first second : CacheLeak) : Prop :=
  first.index < second.index ∨ first.index = second.index ∧ first.rank < second.rank

/-- The instruction is a `RUN` that installs with the manager and does not clean up after it. -/
structure OccursIn (instructions : List Instruction) (leak : CacheLeak) : Prop where
  placed : instructions[leak.index]? = some leak.run
  named : leak.run.is "RUN" = true
  known : PackageManager.known[leak.rank]? = some leak.manager
  installs : ∃ install ∈ leak.manager.installs, install <:+: leak.run.arguments
  keeps : ∀ cleanup ∈ leak.manager.cleanups, ¬cleanup <:+: leak.run.arguments

def ofRun (run : Instruction) (index : Nat) : List CacheLeak :=
  (PackageManager.known.zipIdx.filter (·.1.leavesCache run.arguments)).map fun entry =>
    { index, run, rank := entry.2, manager := entry.1 }

def all (instructions : List Instruction) : List CacheLeak :=
  (instructions.zipIdx.filter (·.1.is "RUN")).flatMap fun entry => ofRun entry.1 entry.2

theorem mem_all_iff : leak ∈ all instructions ↔ leak.OccursIn instructions := by
  constructor
  · intro member
    obtain ⟨⟨run, index⟩, present, leaks⟩ := List.mem_flatMap.mp member
    obtain ⟨placed, named⟩ := List.mem_filter.mp present
    obtain ⟨⟨manager, rank⟩, listed, rfl⟩ := List.mem_map.mp leaks
    obtain ⟨known, leaves⟩ := List.mem_filter.mp listed
    obtain ⟨installs, keeps⟩ := PackageManager.leavesCache_eq_true_iff.mp leaves
    exact ⟨List.mk_mem_zipIdx_iff_getElem?.mp placed, named,
      List.mk_mem_zipIdx_iff_getElem?.mp known, installs, keeps⟩
  · intro occurs
    have leaves : leak.manager.leavesCache leak.run.arguments = true :=
      PackageManager.leavesCache_eq_true_iff.mpr ⟨occurs.installs, occurs.keeps⟩
    have present : (leak.run, leak.index) ∈ instructions.zipIdx.filter (·.1.is "RUN") :=
      List.mem_filter.mpr ⟨List.mk_mem_zipIdx_iff_getElem?.mpr occurs.placed, occurs.named⟩
    have listed : (leak.manager, leak.rank) ∈
        PackageManager.known.zipIdx.filter (·.1.leavesCache leak.run.arguments) :=
      List.mem_filter.mpr ⟨List.mk_mem_zipIdx_iff_getElem?.mpr occurs.known, leaves⟩
    exact List.mem_flatMap.mpr ⟨_, present, List.mem_map.mpr ⟨_, listed, rfl⟩⟩

private theorem pairwise_zipIdx {Entry : Type} (entries : List Entry) :
    entries.zipIdx.Pairwise (·.2 < ·.2) := by
  have numbers : (entries.zipIdx.map Prod.snd).Pairwise (· < ·) := by
    rw [List.zipIdx_map_snd]
    exact List.pairwise_lt_range' 1
  exact List.pairwise_map.mp numbers

/-- No pair of an instruction and a manager comes twice. -/
theorem pairwise_all (instructions : List Instruction) : (all instructions).Pairwise Precedes := by
  rw [all, List.pairwise_flatMap]
  -- The managers decide inside of one instruction, the instructions between two of them.
  constructor
  · intro entry _
    exact ((pairwise_zipIdx PackageManager.known).filter _).map _ fun _ _ before => .inr ⟨rfl, before⟩
  · apply ((pairwise_zipIdx instructions).filter _).imp
    intro first second before leak leaks other others
    obtain ⟨_, _, rfl⟩ := List.mem_map.mp leaks
    obtain ⟨_, _, rfl⟩ := List.mem_map.mp others
    exact .inl before

theorem map_warning_all (instructions : List Instruction) :
    (all instructions).map warning = packageCaches instructions := by
  rw [packageCaches]
  conv_rhs => rw [← List.zipIdx_map_fst 0 instructions, ← List.zipIdx_map_fst 0 PackageManager.known]
  simp only [all, ofRun, List.filter_map, List.flatMap_map, List.map_flatMap, List.map_map]
  rfl

end CacheLeak

/-- Neither a cleanup nor an installation has an effect on another layer. -/
theorem packageCaches_append (left right : List Instruction) :
    packageCaches (left ++ right) = packageCaches left ++ packageCaches right := by
  rw [packageCaches, List.filter_append, List.flatMap_append, packageCaches, packageCaches]

theorem packageCaches_of_run {run : Instruction} (named : run.is "RUN" = true) :
    packageCaches [run] = (PackageManager.known.filter (·.leavesCache run.arguments)).map
      (packageCacheWarning · run.line) := by
  rw [packageCaches, List.filter_cons, if_pos named, List.filter_nil, List.flatMap_singleton]

/-- Where instructions stand decides which lines the findings point at, and nothing else. -/
theorem packageCaches_moveLine (move : Nat → Nat) (instructions : List Instruction) :
    packageCaches (instructions.map (·.moveLine move)) =
      (packageCaches instructions).map fun issue => issue.atLine (issue.line.map move) := by
  simp only [packageCaches, List.filter_map, List.flatMap_map, List.map_flatMap, List.map_map]
  rfl

/-- Caches are judged layer by layer.  There is one finding for each `RUN` and each manager that
leaves its cache there, in this order and none twice; a `RUN` is judged by its arguments alone, so
what other instructions do plays no part; and a line may be broken at any of its spaces, also inside
of a command, without a change to any finding but the line that it points at. -/
theorem packageCaches_layer_by_layer (path : Text) :
    (∀ instructions : List Instruction, ∃ leaks : List CacheLeak,
        packageCaches instructions = leaks.map (·.warning) ∧
          leaks.Pairwise CacheLeak.Precedes ∧
          ∀ leak, leak ∈ leaks ↔ leak.OccursIn instructions) ∧
      (∀ run other : Instruction, run.is "RUN" = true → other.is "RUN" = true →
        run.arguments = other.arguments →
          packageCaches [other] = (packageCaches [run]).map (·.atLine (some other.line))) ∧
      (∀ left right : List Instruction,
        packageCaches (left ++ right) = packageCaches left ++ packageCaches right) ∧
      ∀ before line broken after : Text, Text.AtLineStart before → '\n' ∉ line →
        (Text.trim line).head? ≠ some '#' → Text.AtLineEnd after → Text.BrokenInto line broken →
          (packageCaches (parse path (before ++ broken ++ after)).instructions).map (·.atLine none) =
            (packageCaches (parse path (before ++ line ++ after)).instructions).map
              (·.atLine none) := by
  refine ⟨?_, ?_, packageCaches_append, ?_⟩
  · intro instructions
    exact ⟨_, (CacheLeak.map_warning_all instructions).symm, CacheLeak.pairwise_all instructions,
      fun leak => CacheLeak.mem_all_iff⟩
  · intro run other named otherNamed same
    rw [packageCaches_of_run named, packageCaches_of_run otherNamed, same, List.map_map]
    rfl
  · intro before line broken after started unbroken visible ended split
    rw [Dockerfile.parse_instructions, Dockerfile.parse_instructions,
      Dockerfile.instructionsOf_brokenInto ended split started unbroken visible,
      packageCaches_moveLine, List.map_map]
    rfl

/-- Both managers are found although their commands are broken in the middle, and the cleanup in front
of them belongs to another layer. -/
theorem packageCaches_layer_by_layer_broken :
    let run := Instruction.ofSource 2 "RUN apk add b"
    let other := Instruction.ofSource 5 "run  apk add b"
    let before : Text := "FROM a\nRUN apt-get clean\n"
    let line : Text := "RUN apt-get install b && yum install c"
    let broken : Text := "RUN apt-get \\\n  install b && yum\\ \r\n\tinstall c"
    run.is "RUN" = true ∧ other.is "RUN" = true ∧ run.arguments = other.arguments ∧
      packageCaches [other] = (packageCaches [run]).map (·.atLine (some other.line)) ∧
      Text.AtLineStart before ∧ '\n' ∉ line ∧ (Text.trim line).head? ≠ some '#' ∧
      Text.AtLineEnd "\n" ∧ Text.BrokenInto line broken ∧
      (packageCaches (parse [] (before ++ line ++ "\n")).instructions).length = 2 ∧
      (packageCaches (parse [] (before ++ broken ++ "\n")).instructions).map (·.atLine none) =
        (packageCaches (parse [] (before ++ line ++ "\n")).instructions).map (·.atLine none) := by
  intro run other before line broken
  have named : run.is "RUN" = true := by decide +kernel
  have otherNamed : other.is "RUN" = true := by decide +kernel
  have same : run.arguments = other.arguments := by decide +kernel
  have started : Text.AtLineStart before := .inr (by decide +kernel)
  have unbroken : '\n' ∉ line := by decide +kernel
  have visible : (Text.trim line).head? ≠ some '#' := by decide +kernel
  have ended : Text.AtLineEnd "\n" := .inr rfl
  have reported : (packageCaches (parse [] (before ++ line ++ "\n")).instructions).length = 2 := by
    decide +kernel
  have nothing : Text.IsPadding [] := Text.isPadding_of_all rfl
  have space : Text.IsPadding " " := Text.isPadding_of_all rfl
  have spaces : Text.IsPadding "  " := Text.isPadding_of_all rfl
  have ending : Text.IsPadding " \r" := Text.isPadding_of_all rfl
  have tab : Text.IsPadding "\t" := Text.isPadding_of_all rfl
  have aptEnds : Text.EndsVisibly "RUN apt-get" := ⟨'t', rfl, rfl⟩
  have aptStarts : Text.StartsVisibly "install b && yum install c" := ⟨'i', rfl, rfl⟩
  have yumEnds : Text.EndsVisibly "  install b && yum" := ⟨'m', rfl, rfl⟩
  have yumStarts : Text.StartsVisibly "install c" := ⟨'i', rfl, rfl⟩
  have rest : Text.BrokenInto "  install b && yum install c"
      "  install b && yum\\ \r\n\tinstall c" :=
    .cut yumEnds yumStarts (by decide) nothing ending tab (.whole "\tinstall c")
  have split : Text.BrokenInto line broken :=
    .cut aptEnds aptStarts (by decide) space nothing spaces rest
  obtain ⟨_, alike, _, unseen⟩ := packageCaches_layer_by_layer []
  exact ⟨named, otherNamed, same, alike run other named otherNamed same, started, unbroken, visible,
    ended, split, reported, unseen before line broken "\n" started unbroken visible ended split⟩

end DockerfileLint.Check
