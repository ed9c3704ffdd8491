-- The directories around a path, as the text of the path names them. Their paths break off before
-- the last piece of the path, so that what is made for a file lies on the way to the file.
import Mathlib
import BoundaryGen.Proofs.Files.Destination

namespace BoundaryGen.Path

variable {path directory around name : String} {before : List String}

/-! ## Paths that are put together -/

/-- A path below a directory starts with pieces of the directory and ends with its own. -/
theorem exists_pieces_join (directory path : String) :
    ∃ kept, kept <+: pieces directory ∧ pieces (join directory path) = kept ++ pieces path := by
  by_cases hroot : isAbsolute path || directory.isEmpty
  · rw [join, if_pos hroot]
    exact ⟨[], List.nil_prefix, rfl⟩
  · rw [Bool.or_eq_true, not_or, Bool.not_eq_true, String.isEmpty_iff] at hroot
    obtain ⟨kept, blanks, hdirectory, -, hjoin⟩ := exists_pieces_of_join hroot.2 hroot.1
    exact ⟨kept, hdirectory ▸ List.prefix_append kept blanks, hjoin⟩

/-- The pieces of a path that goes on from a directory come from the directory or from the parts. -/
theorem mem_pieces_extend {parts : List String} {piece : String}
    (h : piece ∈ pieces (extend directory parts)) :
    piece ∈ pieces directory ∨ ∃ part ∈ parts, piece ∈ pieces part := by
  unfold extend at h
  induction parts generalizing directory with
  | nil => exact Or.inl h
  | cons part parts ih =>
    rcases ih h with h | ⟨part', hpart, h⟩
    · obtain ⟨kept, hkept, hpieces⟩ := exists_pieces_join directory part
      rw [hpieces] at h
      rcases List.mem_append.mp h with h | h
      · exact Or.inl (hkept.subset h)
      · exact Or.inr ⟨part, List.mem_cons_self, h⟩
    · exact Or.inr ⟨part', List.mem_cons_of_mem part hpart, h⟩

/-! ## Paths that are taken apart -/

/-- What is cut from the end of a path are whole pieces. -/
theorem splitAt_cutEnd_prefix (reversed : List Char) :
    splitAt '/' (cutEnd reversed).reverse <+: splitAt '/' reversed.reverse := by
  induction hlength : reversed.length using Nat.strong_induction_on generalizing reversed with
  | _ n ih =>
    subst hlength
    unfold cutEnd
    split
    · rename_i rest
      rw [List.reverse_cons, splitAt_append]
      exact (ih _ (Nat.lt_succ_self _) rest rfl).trans (List.prefix_append _ _)
    · rename_i rest
      have hless : rest.length < ('.' :: '/' :: rest).length :=
        Nat.lt_succ_of_lt (Nat.lt_succ_self _)
      rw [cutEnd, List.reverse_cons, List.reverse_cons, List.append_assoc, List.singleton_append,
        splitAt_append]
      exact (ih _ hless rest rfl).trans (List.prefix_append _ _)
    · exact List.prefix_refl _

/-- What stands in front of the last slash is all but the last piece. -/
theorem exists_splitAt_of_dropWhile {reversed rest : List Char}
    (h : reversed.dropWhile (· ≠ '/') = '/' :: rest) :
    ∃ last, splitAt '/' reversed.reverse = splitAt '/' rest.reverse ++ [last] := by
  have hsplit := List.takeWhile_append_dropWhile (p := fun c : Char => decide (c ≠ '/'))
    (l := reversed)
  rw [h] at hsplit
  have hname : '/' ∉ (reversed.takeWhile fun c => decide (c ≠ '/')).reverse := by
    intro hmem
    simpa using List.mem_takeWhile_imp (List.mem_reverse.mp hmem)
  refine ⟨(reversed.takeWhile fun c => decide (c ≠ '/')).reverse, ?_⟩
  rw [← splitAt_of_not_mem hname, ← splitAt_append, ← List.singleton_append, ← List.append_assoc,
    ← List.reverse_cons, ← List.reverse_append, hsplit]

/-- The path of the directory around a path is empty or the root, or it breaks off before the last
piece of the path. -/
theorem parent?_cases (h : parent? path = some around) :
    around = "" ∨ around = "/" ∨ ∃ rest, rest ≠ [] ∧ pieces path = pieces around ++ rest := by
  have hpath := splitAt_cutEnd_prefix path.toList.reverse
  rw [List.reverse_reverse] at hpath
  unfold parent? at h
  dsimp only at h
  generalize cutEnd path.toList.reverse = reversed at h hpath
  split at h
  · cases h
  rcases habove : reversed.dropWhile (· ≠ '/') with _ | ⟨c, rest⟩
  · rw [habove] at h
    cases h
    exact Or.inl rfl
  · obtain rfl : c = '/' := by
      have hhead := List.head?_dropWhile_not (fun c : Char => decide (c ≠ '/')) reversed
      rw [habove] at hhead
      simpa using hhead
    obtain ⟨last, hlast⟩ := exists_splitAt_of_dropWhile habove
    have hrest := splitAt_cutEnd_prefix rest
    rw [habove, cutEnd] at h
    split at h
    · cases h
      exact Or.inr (Or.inl rfl)
    · cases h
      refine Or.inr (Or.inr ?_)
      obtain ⟨between, hbetween⟩ := hrest
      obtain ⟨behind, hbehind⟩ := hpath
      rw [hlast, ← hbetween] at hbehind
      refine ⟨(between ++ [last] ++ behind).map String.ofList, by simp, ?_⟩
      rw [pieces, pieces, ← hbehind, String.toList_ofList]
      simp only [List.map_append, List.append_assoc]

/-- A path that is passed on the way through some pieces: the empty path or the root, or the path of
some of the pieces, from the first on. -/
def OnTheWay (before : List String) (directory : String) : Prop :=
  directory = "" ∨ directory = "/" ∨ pieces directory <+: before

theorem OnTheWay.parent (h : OnTheWay before directory)
    (haround : parent? directory = some around) : OnTheWay before around := by
  rcases h with rfl | rfl | h
  · cases haround
  · cases haround
  · rcases parent?_cases haround with hempty | hroot | ⟨rest, -, hsplit⟩
    · exact Or.inl hempty
    · exact Or.inr (Or.inl hroot)
    · exact Or.inr (Or.inr ((hsplit ▸ List.prefix_append _ _).trans h))

/-- The directory around a path that ends in a name is passed on the way to the name. -/
theorem onTheWay_of_parent? (hpieces : pieces path = before ++ [name])
    (haround : parent? path = some around) : OnTheWay before around := by
  rcases parent?_cases haround with h | h | ⟨rest, hne, hsplit⟩
  · exact Or.inl h
  · exact Or.inr (Or.inl h)
  · refine Or.inr (Or.inr ?_)
    have hfront : pieces around <+: before ++ [name] := by
      rw [← hpieces, hsplit]
      exact List.prefix_append _ _
    rcases List.prefix_concat_iff.mp hfront with heq | hfront
    · rw [hpieces, ← heq] at hsplit
      exact absurd (List.self_eq_append_right.mp hsplit) hne
    · exact hfront

/-- All directories around a path are passed when the innermost is. -/
theorem OnTheWay.withParents (h : OnTheWay before path) :
    ∀ directory ∈ withParents path, OnTheWay before directory := by
  unfold Path.withParents
  generalize path.length = n
  induction n generalizing path with
  | zero =>
    intro directory hmem
    rwa [List.mem_singleton.mp hmem]
  | succ n ih =>
    intro directory hmem
    rcases List.mem_cons.mp hmem with rfl | hmem
    · exact h
    rcases hparent : parent? path with _ | above
    · rw [hparent] at hmem
      cases hmem
    · rw [hparent] at hmem
      exact ih (h.parent hparent) directory hmem

end BoundaryGen.Path
