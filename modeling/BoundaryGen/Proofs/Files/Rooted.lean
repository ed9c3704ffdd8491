-- Trees whose entries all stand in directories, as those of a disk do. There a file is found on
-- every path to its place that never goes back; a path that goes back may lead through a directory
-- that is not there.
import Mathlib
import BoundaryGen.Proofs.Files.Destination

namespace BoundaryGen

namespace Path

variable {mark : Char}

/-- Characters behind a text that are no mark go on with its last piece. -/
theorem exists_splitAt_append {rest : List Char} (h : mark ∉ rest) (cs : List Char) :
    ∃ before last, splitAt mark (cs ++ rest) = before ++ [last ++ rest] := by
  induction cs with
  | nil => exact ⟨[], [], splitAt_of_not_mem h⟩
  | cons c cs ih =>
    obtain ⟨before, last, heq⟩ := ih
    rw [List.cons_append, splitAt, heq]
    split
    · exact ⟨[] :: before, last, rfl⟩
    · cases before with
      | nil => exact ⟨[], c :: last, rfl⟩
      | cons piece before => exact ⟨(c :: piece) :: before, last, rfl⟩

theorem exists_pieces_append {rest : String} (h : '/' ∉ rest.toList) (path : String) :
    ∃ around last, pieces (path ++ rest) = around ++ [last ++ rest] := by
  obtain ⟨before, last, heq⟩ := exists_splitAt_append h path.toList
  refine ⟨before.map String.ofList, String.ofList last, ?_⟩
  rw [pieces, String.toList_append, heq, List.map_append, List.map_singleton, String.ofList_append,
    String.ofList_toList]

/-- A path below a directory ends like the path. -/
theorem exists_join_eq (directory path : String) :
    ∃ before, join directory path = before ++ path := by
  unfold join
  split
  · exact ⟨"", (String.empty_append).symm⟩
  · split
    · exact ⟨directory, rfl⟩
    · exact ⟨directory ++ "/", rfl⟩

end Path

namespace FileTree

variable {t : FileTree} {trail parent : Trail} {names around : List String} {path name : String}

/-! ## Rooted trees -/

/-- Every entry stands in a directory. -/
def Rooted (t : FileTree) : Prop :=
  ∀ parent name, (t.get? (parent ++ [name])).isSome → t.get? parent = some .directory

theorem rooted_empty : Rooted {} := by
  intro parent name h
  have hne : parent ++ [name] ≠ [] := List.append_ne_nil_of_right_ne_nil _ (List.cons_ne_nil _ _)
  rw [get?, List.isEmpty_eq_false_iff.mpr hne, if_neg Bool.false_ne_true] at h
  cases h

/-- An entry that is put into a directory keeps a tree rooted, unless it is a file that takes the
place of a directory. -/
theorem Rooted.put (h : t.Rooted) {entry : Entry} (hne : trail ≠ [])
    (hparent : t.get? trail.dropLast = some .directory)
    (hentry : entry = .directory ∨ t.get? trail ≠ some .directory) :
    (t.put trail entry).Rooted := by
  intro parent name hsome
  rw [get?_put t trail entry _ hne] at hsome ⊢
  by_cases hlast : parent ++ [name] = trail
  · subst hlast
    rw [List.dropLast_concat] at hparent
    rw [if_neg (by simp), hparent]
  · rw [if_neg hlast] at hsome
    have hdir := h parent name hsome
    split
    · rename_i heq
      rw [heq] at hdir
      exact congrArg some (hentry.resolve_right fun hnot => hnot hdir)
    · exact hdir

/-- Around a directory there are only directories. -/
theorem Rooted.get?_of_prefix (h : t.Rooted) {start : Trail}
    (hdir : t.get? trail = some .directory) (hstart : start <+: trail) :
    t.get? start = some .directory := by
  induction trail using List.reverseRecOn with
  | nil => rwa [List.prefix_nil.mp hstart]
  | append_singleton trail name ih =>
    rcases List.prefix_concat_iff.mp hstart with rfl | hstart
    · exact hdir
    · exact ih (h trail name (by rw [hdir]; rfl)) hstart

/-! ## Paths that never go back -/

theorem prefix_step (h : name ≠ "..") : trail <+: step trail name := by
  unfold step
  rw [if_neg h]
  split
  · exact List.prefix_refl trail
  · exact List.prefix_append trail [name]

theorem prefix_foldl_step (h : ".." ∉ names) : trail <+: names.foldl step trail := by
  induction names generalizing trail with
  | nil => exact List.prefix_refl trail
  | cons name names ih =>
    rw [List.mem_cons, not_or] at h
    exact (prefix_step (Ne.symm h.1)).trans (ih h.2)

/-- Names that lead to a directory lead through directories. -/
theorem Rooted.follow (h : t.Rooted) (hnames : ".." ∉ names)
    (hdir : t.get? (names.foldl step trail) = some .directory) :
    t.follow trail names = .ok (names.foldl step trail) := by
  induction names generalizing trail with
  | nil => rfl
  | cons name names ih =>
    have hstart := h.get?_of_prefix hdir (prefix_foldl_step hnames)
    rw [FileTree.follow, directoryAt_eq_ok.mpr ⟨rfl, hstart⟩]
    exact ih (fun hmem => hnames (List.mem_cons_of_mem name hmem)) hdir

/-- A path that never goes back leads to the entry at its destination. -/
theorem Rooted.resolve (h : t.Rooted) (hpieces : Path.pieces path = around ++ [name])
    (hname : Path.IsName name) (haround : ".." ∉ around)
    (hget : (t.get? (destination path)).isSome) : t.resolve path = .ok (destination path) := by
  have hdestination : destination path = around.foldl step [] ++ [name] :=
    leadFrom_of_pieces hpieces hname []
  rw [hdestination] at hget
  have hdir := h _ _ hget
  have hempty : path.isEmpty = false := by
    rw [String.isEmpty_eq_false_iff]
    rintro rfl
    have hpieces : [] ++ [""] = around ++ [name] := hpieces
    obtain ⟨-, heq⟩ := List.append_inj' hpieces rfl
    exact hname.nonempty (List.cons.inj heq).1.symm
  rw [FileTree.resolve, hempty, if_neg Bool.false_ne_true, hpieces, follow_append,
    h.follow haround hdir, hdestination]
  show t.follow (around.foldl step []) [name] = _
  rw [FileTree.follow, directoryAt_eq_ok.mpr ⟨rfl, hdir⟩, ← step_of_isName hname]
  rfl

end FileTree

end BoundaryGen
