import DockerfileLint.Image
import Mathlib.Data.List.Find
import Mathlib.Data.List.Infix
import Mathlib.Data.List.TakeWhile

/-! The name at the core of a reference.  Digest, path and tag are cut off one after the other, each at
a separator that the others may hold as well, and still each comes off whole.  So references that
differ in nothing else are treated alike.  No name in the table of large images begins another, so
the order of the table does not matter. -/

namespace DockerfileLint.Image

section Separators
variable {separator : Char} {text : Text}

private theorem takeWhile_append_cons (front : Text) (separator : Char) (back : Text) :
    (front ++ separator :: back).takeWhile (· ≠ separator) = front.takeWhile (· ≠ separator) := by
  induction front with
  | nil =>
    rw [List.nil_append, List.takeWhile_nil]
    exact List.takeWhile_cons_of_neg (by simp)
  | cons c rest ih => rw [List.cons_append, List.takeWhile_cons, List.takeWhile_cons, ih]

private theorem takeWhile_of_notMem (absent : separator ∉ text) :
    text.takeWhile (· ≠ separator) = text := by
  apply List.takeWhile_eq_self_iff.mpr
  intro c member
  apply decide_eq_true
  rintro rfl
  exact absent member

private theorem notMem_takeWhile : separator ∉ text.takeWhile (· ≠ separator) := by
  intro member
  have differs := List.mem_takeWhile_imp member
  exact of_decide_eq_true differs rfl

end Separators

variable {name path tag : Text}

theorem bareName_append_digest (reference digest : Text) :
    bareName (reference ++ '@' :: digest) = bareName reference := by
  rw [bareName, takeWhile_append_cons, bareName]

theorem bareName_append_tag (reference : Text) (undivided : '/' ∉ tag) (undigested : '@' ∉ tag) :
    bareName (reference ++ ':' :: tag) = bareName reference := by
  by_cases digested : '@' ∈ reference
  · -- The colon is part of the digest then, and goes with it.
    obtain ⟨front, back, rfl⟩ := List.append_of_mem digested
    rw [List.append_assoc, List.cons_append, bareName_append_digest, bareName_append_digest]
  · have whole : '@' ∉ reference ++ ':' :: tag := by simp [digested, undigested]
    have segment : '/' ∉ (':' :: tag).reverse := by simp [undivided]
    have last : ((reference ++ ':' :: tag).reverse.takeWhile (· ≠ '/')).reverse =
        (reference.reverse.takeWhile (· ≠ '/')).reverse ++ ':' :: tag := by
      have kept := List.takeWhile_eq_self_iff.mp (takeWhile_of_notMem segment)
      rw [List.reverse_append, List.takeWhile_append_of_pos kept, List.reverse_append,
        List.reverse_reverse]
    rw [bareName, bareName, takeWhile_of_notMem whole, takeWhile_of_notMem digested, last,
      takeWhile_append_cons]

theorem bareName_append_path (undigested : '@' ∉ path) (reference : Text) :
    bareName (path ++ '/' :: reference) = bareName reference := by
  have whole : (path ++ '/' :: reference).takeWhile (· ≠ '@') =
      path ++ '/' :: reference.takeWhile (· ≠ '@') := by
    have kept := List.takeWhile_eq_self_iff.mp (takeWhile_of_notMem undigested)
    rw [List.takeWhile_append_of_pos kept, List.takeWhile_cons_of_pos (by decide)]
  rw [bareName, whole, List.reverse_append, List.reverse_cons, List.append_assoc,
    List.singleton_append, takeWhile_append_cons, bareName]

theorem bareName_of_plain (undivided : '/' ∉ name) (untagged : ':' ∉ name)
    (undigested : '@' ∉ name) : bareName name = name := by
  have segment : '/' ∉ name.reverse := by simpa using undivided
  rw [bareName, takeWhile_of_notMem undigested, takeWhile_of_notMem segment, List.reverse_reverse,
    takeWhile_of_notMem untagged]

/-- A reference by its parts.  The path is all that stands before the last slash of the name, a
registry with its port included. -/
structure Parts where
  path : Option Text := none
  name : Text
  tag : Option Text := none
  digest : Option Text := none

namespace Parts

def text (parts : Parts) : Text :=
  (parts.path.elim [] (· ++ ['/'])) ++ parts.name ++ (parts.tag.elim [] (':' :: ·)) ++
    (parts.digest.elim [] ('@' :: ·))

/-- The separators stand where the parts meet.  Colons and slashes are also free in a path, colons in a
tag, and everything in a digest. -/
structure Separated (parts : Parts) : Prop where
  path : ∀ path ∈ parts.path, '@' ∉ path
  name : '/' ∉ parts.name ∧ ':' ∉ parts.name ∧ '@' ∉ parts.name
  tag : ∀ tag ∈ parts.tag, '/' ∉ tag ∧ '@' ∉ tag

theorem Separated.bareName_text {parts : Parts} (separated : parts.Separated) :
    bareName parts.text = parts.name := by
  obtain ⟨path?, name, tag?, digest?⟩ := parts
  obtain ⟨undivided, untagged, undigested⟩ := separated.name
  have digestOff (front : Text) : bareName (front ++ digest?.elim [] ('@' :: ·)) = bareName front := by
    cases digest? with
    | none => rw [Option.elim_none, List.append_nil]
    | some digest => exact bareName_append_digest front digest
  have tagOff (front : Text) : bareName (front ++ tag?.elim [] (':' :: ·)) = bareName front := by
    cases tag? with
    | none => rw [Option.elim_none, List.append_nil]
    | some tag =>
      obtain ⟨whole, plain⟩ := separated.tag tag rfl
      exact bareName_append_tag front whole plain
  have pathOff : bareName (path?.elim [] (· ++ ['/']) ++ name) = bareName name := by
    cases path? with
    | none => rfl
    | some path =>
      rw [Option.elim_some, List.append_assoc, List.singleton_append]
      exact bareName_append_path (separated.path path rfl) name
  rw [text, digestOff, tagOff, pathOff, bareName_of_plain undivided untagged undigested]

end Parts

theorem notMem_bareName (reference : Text) :
    '/' ∉ bareName reference ∧ ':' ∉ bareName reference ∧ '@' ∉ bareName reference := by
  have kept {c : Char} (member : c ∈ bareName reference) :
      c ∈ (reference.takeWhile (· ≠ '@')).reverse.takeWhile (· ≠ '/') :=
    List.mem_reverse.mp (List.takeWhile_subset _ member)
  refine ⟨?path, notMem_takeWhile, ?digest⟩
  case path =>
    intro member
    exact notMem_takeWhile (kept member)
  case digest =>
    intro member
    have undigested := List.mem_reverse.mp (List.takeWhile_subset _ (kept member))
    exact notMem_takeWhile undigested

theorem bareName_bareName (reference : Text) :
    bareName (bareName reference) = bareName reference := by
  obtain ⟨undivided, untagged, undigested⟩ := notMem_bareName reference
  exact bareName_of_plain undivided untagged undigested

section Tables
variable {reference other : Text}

theorem largeImage?_congr (same : bareName reference = bareName other) :
    largeImage? reference = largeImage? other := by
  rw [largeImage?, largeImage?, same]

theorem multistageAdvice_congr (same : bareName reference = bareName other) :
    multistageAdvice reference = multistageAdvice other := by
  rw [multistageAdvice, multistageAdvice, same]

private theorem eq_of_prefix_largeImages :
    ∀ first ∈ largeImages, ∀ second ∈ largeImages, first.1 <+: second.1 → first = second := by
  decide

theorem largeImages_match_unique {first second : Text × Text}
    (known : first ∈ largeImages) (begins : first.1 <+: bareName reference)
    (otherKnown : second ∈ largeImages) (otherBegins : second.1 <+: bareName reference) :
    first = second := by
  rcases List.prefix_or_prefix_of_prefix begins otherBegins with shorter | longer
  · exact eq_of_prefix_largeImages first known second otherKnown shorter
  · exact (eq_of_prefix_largeImages second otherKnown first known longer).symm

theorem find?_perm_largeImages {table : List (Text × Text)} (perm : table.Perm largeImages)
    (reference : Text) :
    table.find? (fun entry => entry.1.isPrefixOf (bareName reference)) = largeImage? reference := by
  refine (List.find?_eq_find?_of_perm perm.symm ?_).symm
  rintro first ⟨known, begins⟩ second ⟨otherKnown, otherBegins⟩
  exact largeImages_match_unique known (List.isPrefixOf_iff_prefix.mp begins) otherKnown
    (List.isPrefixOf_iff_prefix.mp otherBegins)

/-- What is said about an image depends on its name only: registry, path, tag and digest leave the name
and both answers alone, and at most one entry for large images speaks of it. -/
theorem bareName_of_decorated :
    (∀ parts : Parts, parts.Separated → bareName parts.text = parts.name) ∧
      (∀ reference : Text,
        ('/' ∉ bareName reference ∧ ':' ∉ bareName reference ∧ '@' ∉ bareName reference) ∧
          bareName (bareName reference) = bareName reference) ∧
      (∀ parts other : Parts, parts.Separated → other.Separated → parts.name = other.name →
        largeImage? parts.text = largeImage? other.text ∧
          multistageAdvice parts.text = multistageAdvice other.text) ∧
      (∀ reference : Text, ∀ first ∈ largeImages, ∀ second ∈ largeImages,
        first.1 <+: bareName reference → second.1 <+: bareName reference → first = second) ∧
      (∀ reference : Text, ∀ table : List (Text × Text), table.Perm largeImages →
        table.find? (fun entry => entry.1.isPrefixOf (bareName reference)) =
          largeImage? reference) := by
  refine ⟨?name, ?plain, ?answers, ?unique, ?order⟩
  case name =>
    intro parts separated
    exact separated.bareName_text
  case plain =>
    intro reference
    exact ⟨notMem_bareName reference, bareName_bareName reference⟩
  case answers =>
    intro parts other separated otherSeparated same
    have names : bareName parts.text = bareName other.text := by
      rw [separated.bareName_text, otherSeparated.bareName_text, same]
    exact ⟨largeImage?_congr names, multistageAdvice_congr names⟩
  case unique =>
    intro reference first known second otherKnown begins otherBegins
    exact largeImages_match_unique known begins otherKnown otherBegins
  case order =>
    intro reference table perm
    exact find?_perm_largeImages perm reference

/-- A registry with a port, a tag, and a digest that holds all three separators. -/
def decoratedNode : Parts :=
  { path := some "registry.local:5000/team"
    name := "nodejs"
    tag := some "18:alpine"
    digest := some "sha256:0a/php:8@1b" }

theorem decoratedNode_separated : decoratedNode.Separated where
  path := by decide
  name := by decide
  tag := by decide

theorem bareName_of_decorated_node :
    bareName "registry.local:5000/team/nodejs:18:alpine@sha256:0a/php:8@1b" = "nodejs" ∧
      largeImage? decoratedNode.text = some (("node" : Text), ("node:alpine" : Text)) ∧
      largeImages.reverse.find? (fun entry => entry.1.isPrefixOf (bareName decoratedNode.text)) =
        some (("node" : Text), ("node:alpine" : Text)) ∧
      ∀ second ∈ largeImages, second.1 <+: ("nodejs" : Text) → second.1 = ("node" : Text) := by
  obtain ⟨name, -, answers, unique, order⟩ := bareName_of_decorated
  have written : bareName decoratedNode.text = "nodejs" := name decoratedNode decoratedNode_separated
  have plain : Parts.Separated { name := "nodejs" } :=
    { path := by simp, name := by decide, tag := by simp }
  have answer : largeImage? decoratedNode.text = some (("node" : Text), ("node:alpine" : Text)) :=
    (answers decoratedNode { name := "nodejs" } decoratedNode_separated plain rfl).1
  refine ⟨written, answer, ?_, ?_⟩
  · exact (order decoratedNode.text _ (List.reverse_perm largeImages)).trans answer
  · intro second known begins
    exact congrArg Prod.fst (unique "nodejs" second known (("node" : Text), ("node:alpine" : Text))
      (by decide) begins (by decide))

end Tables

end DockerfileLint.Image
