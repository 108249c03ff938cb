import DockerfileLint.Files.Path
import Mathlib.Data.List.Infix
import Mathlib.Data.List.TakeWhile

namespace DockerfileLint.Path

variable {path name parent : Text}

/-- The names along a path.  Empty names and single dots lead nowhere. -/
def names (path : Text) : List Text :=
  (path.splitOn '/').filter fun name => name ≠ [] ∧ name ≠ "."

def IsRooted (path : Text) : Prop := path.head? = some '/'

/-- The directory that a path lies in: it starts where the path starts and leads along all names but
the last.  It is the front of the path as written, or a dot. -/
structure IsParent (path parent : Text) : Prop where
  names_eq : names parent = (names path).dropLast
  rooted : IsRooted parent ↔ IsRooted path ∧ names path ≠ []
  written : parent = "." ∨ parent <+: path

theorem names_append_slash (before after : Text) :
    names (before ++ '/' :: after) = names before ++ names after := by
  rw [names, List.splitOn_append_cons_self, List.filter_append, names, names]

theorem names_of_not_mem (bare : '/' ∉ name) :
    names name = if name ≠ [] ∧ name ≠ "." then [name] else [] := by
  rw [names, List.splitOn_eq_singleton bare, List.filter_cons, List.filter_nil]
  simp only [decide_eq_true_eq]

/-! Paths are shortened while they are written backwards. -/

theorem names_reverse_dropIdle (text : Text) : names (dropIdle text).reverse = names text.reverse := by
  fun_induction dropIdle text with
  | case1 => rfl
  | case2 => rfl
  | case3 rest _ ih =>
    rw [ih, List.reverse_cons, names_append_slash]
    exact (List.append_nil _).symm
  | case4 rest _ ih =>
    rw [ih, List.reverse_cons, List.reverse_cons, List.append_assoc, List.singleton_append,
      names_append_slash]
    exact (List.append_nil _).symm
  | case5 => rfl

theorem getLast?_dropIdle (text : Text) : (dropIdle text).getLast? = text.getLast? := by
  fun_induction dropIdle text with
  | case1 => rfl
  | case2 => rfl
  | case3 rest more ih =>
    obtain ⟨first, others, rfl⟩ := List.exists_cons_of_ne_nil more
    rw [ih, List.getLast?_cons_cons]
  | case4 rest more ih =>
    obtain ⟨first, others, rfl⟩ := List.exists_cons_of_ne_nil more
    rw [ih, List.getLast?_cons_cons, List.getLast?_cons_cons]
  | case5 => rfl

theorem dropIdle_cons_ne_nil (c : Char) (text : Text) : dropIdle (c :: text) ≠ [] := by
  intro empty
  have ends := getLast?_dropIdle (c :: text)
  rw [empty, List.getLast?_cons] at ends
  cases ends

theorem dropIdle_suffix (text : Text) : dropIdle text <:+ text := by
  fun_induction dropIdle text with
  | case1 => exact List.suffix_rfl
  | case2 => exact List.suffix_cons _ _
  | case3 rest _ ih => exact ih.trans (List.suffix_cons _ _)
  | case4 rest _ ih => exact ih.trans ((List.suffix_cons _ _).trans (List.suffix_cons _ _))
  | case5 => exact List.suffix_rfl

theorem dropIdle_settled (text : Text) :
    dropIdle text = ['/'] ∨
      (∀ rest, dropIdle text ≠ '/' :: rest) ∧ ∀ rest, dropIdle text ≠ '.' :: '/' :: rest := by
  fun_induction dropIdle text with
  | case1 => exact .inl rfl
  | case2 => exact .inl rfl
  | case3 _ _ ih => exact ih
  | case4 _ _ ih => exact ih
  | case5 path _ _ slash dot => exact .inr ⟨slash, dot⟩

namespace IsParent

theorem of_shorter {shorter : Text} (found : IsParent shorter parent)
    (same : names shorter = names path) (starts : shorter.head? = path.head?)
    (begins : shorter <+: path) : IsParent path parent where
  names_eq := by rw [← same, found.names_eq]
  rooted := by rw [found.rooted, same, IsRooted, IsRooted, starts]
  written := found.written.imp_right fun front => front.trans begins

/-- A path with at most one name lies where one is, unless that name stands below the root. -/
theorem dot (short : (names path).dropLast = []) (relative : ¬(IsRooted path ∧ names path ≠ [])) :
    IsParent path "." where
  names_eq := short.symm
  rooted := iff_of_false (by unfold IsRooted; decide) relative
  written := .inl rfl

theorem bare (alone : '/' ∉ path) : IsParent path "." := by
  apply dot
  · rw [names_of_not_mem alone]
    split <;> rfl
  · rintro ⟨rooted, _⟩
    exact alone (List.mem_of_mem_head? rooted)

/-- What stands before the last name, without what leads nowhere, is the directory. -/
theorem front {last before : Text} (alone : '/' ∉ last) (named : last ≠ [] ∧ last ≠ ".") :
    IsParent (before ++ '/' :: last) (dropIdle ('/' :: before.reverse)).reverse := by
  have whole : names (before ++ '/' :: last) = names before ++ [last] := by
    rw [names_append_slash, names_of_not_mem alone, if_pos named]
  have turned : '/' :: before.reverse = (before ++ ['/']).reverse := by
    rw [List.reverse_append, List.reverse_singleton, List.singleton_append]
  refine ⟨?_, ?_, .inr ?_⟩
  · rw [whole, List.dropLast_concat, turned, names_reverse_dropIdle, List.reverse_reverse,
      names_append_slash]
    exact List.append_nil _
  · have starts : (dropIdle ('/' :: before.reverse)).reverse.head? =
        (before ++ '/' :: last).head? := by
      rw [List.head?_reverse, getLast?_dropIdle, turned, List.getLast?_reverse]
      cases before <;> rfl
    rw [IsRooted, starts, whole]
    exact (and_iff_left (List.append_ne_nil_of_right_ne_nil _ (List.cons_ne_nil _ _))).symm
  · have begins : (dropIdle ('/' :: before.reverse)).reverse <+: before ++ ['/'] := by
      rw [← List.reverse_suffix, List.reverse_reverse, turned]
      exact dropIdle_suffix _
    exact begins.trans ⟨last, by rw [List.append_assoc, List.singleton_append]⟩

end IsParent

/-- Where a path has been shortened, it is cut before its last name. -/
theorem isParent_cut {whole : Text} (slash : ∀ rest, whole ≠ '/' :: rest)
    (dot : ∀ rest, whole ≠ '.' :: '/' :: rest) :
    let parent := dropIdle (whole.dropWhile (· ≠ '/'))
    IsParent whole.reverse (if parent = [] then "." else parent.reverse) := by
  intro parent
  obtain ⟨last, rest, rfl, alone, cut⟩ : ∃ last rest, whole = last ++ rest ∧
      '/' ∉ last.reverse ∧ whole.dropWhile (· ≠ '/') = rest := by
    refine ⟨whole.takeWhile (· ≠ '/'), _, List.takeWhile_append_dropWhile.symm, ?_, rfl⟩
    intro inside
    simpa using List.mem_takeWhile_imp (List.mem_reverse.mp inside)
  have separated := List.head?_dropWhile_not (· ≠ '/') (last ++ rest)
  rw [cut] at separated
  simp only [parent, cut]
  cases rest with
  | nil =>
    rw [List.append_nil]
    exact IsParent.bare alone
  | cons c before =>
    obtain rfl : c = '/' := by simpa using separated
    have named : last.reverse ≠ [] ∧ last.reverse ≠ "." := by
      constructor
      · intro empty
        exact slash before (by rw [List.reverse_eq_nil_iff.mp empty, List.nil_append])
      · intro single
        exact dot before (by rw [← List.reverse_reverse last, single]; rfl)
    have found : IsParent (before.reverse ++ '/' :: last.reverse)
        (dropIdle ('/' :: before.reverse.reverse)).reverse := IsParent.front alone named
    rw [if_neg (dropIdle_cons_ne_nil '/' before), List.reverse_append, List.reverse_cons,
      List.append_assoc, List.singleton_append]
    rwa [List.reverse_reverse] at found

theorem isParent_directory (path : Text) : IsParent path (directory path) := by
  have same : names (dropIdle path.reverse).reverse = names path := by
    rw [names_reverse_dropIdle, List.reverse_reverse]
  have starts : (dropIdle path.reverse).reverse.head? = path.head? := by
    rw [List.head?_reverse, getLast?_dropIdle, List.getLast?_reverse]
  have begins : (dropIdle path.reverse).reverse <+: path := by
    rw [← List.reverse_suffix, List.reverse_reverse]
    exact dropIdle_suffix _
  refine IsParent.of_shorter ?_ same starts begins
  simp only [directory]
  rcases dropIdle_settled path.reverse with root | ⟨slash, dot⟩
  · rw [root]
    exact IsParent.dot rfl fun both => both.2 rfl
  · rw [if_neg (slash [])]
    exact isParent_cut slash dot

end DockerfileLint.Path
