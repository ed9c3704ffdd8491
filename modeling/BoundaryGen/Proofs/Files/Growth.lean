-- Trees that grow: directories come that are not hidden, and files of certain names come or change.
-- Everything else stays, so that a reader who passes over files of these names finds the same
-- entries as before, in the same order.
import Mathlib
import BoundaryGen.Files.Walk
import BoundaryGen.Proofs.Files.Around
import BoundaryGen.Proofs.Files.Changes
import BoundaryGen.Proofs.Files.Rooted

namespace BoundaryGen

namespace OrderedMap

variable {κ α : Type} [DecidableEq κ] {key : κ} {value : α}

/-- What is put under a key does not show among entries that are selected, when nothing under the
key is. -/
theorem filter_insertEntry {p : κ × α → Bool} {entries : List (κ × α)}
    (hnew : p (key, value) = false) (hold : ∀ v, (key, v) ∈ entries → p (key, v) = false) :
    (insertEntry key value entries).filter p = entries.filter p := by
  induction entries with
  | nil => rw [insertEntry, List.filter_cons_of_neg (by simp [hnew])]
  | cons e rest ih =>
    obtain ⟨k, v⟩ := e
    have hrest := ih fun v hv => hold v (List.mem_cons_of_mem _ hv)
    unfold insertEntry
    split
    · rename_i hkey
      subst hkey
      have hfirst := hold v List.mem_cons_self
      rw [List.filter_cons_of_neg (by simp [hnew]), List.filter_cons_of_neg (by simp [hfirst])]
    · rw [List.filter_cons, List.filter_cons, hrest]

end OrderedMap

namespace FileTree

variable {t t₁ t₂ : FileTree} {trail parent : Trail} {path name : String} {entry : Entry}
  {content : ByteArray} {made : String → Bool} {before rest : List String}

theorem concat_ne_nil (parent : Trail) (name : String) : parent ++ [name] ≠ [] :=
  List.append_ne_nil_of_right_ne_nil _ (List.cons_ne_nil _ _)

theorem mem_entries_iff (h : trail ≠ []) :
    (trail, entry) ∈ t.entries.entries ↔ t.get? trail = some entry := by
  rw [get?, List.isEmpty_eq_false_iff.mpr h, if_neg Bool.false_ne_true,
    OrderedMap.get?_eq_some_iff]

/-! ## Well-formed trees -/

/-- Every entry stands in a directory, under a name, as on every disk. -/
structure WellFormed (t : FileTree) : Prop where
  rooted : t.Rooted
  named : ∀ {trail}, (t.get? trail).isSome → ∀ name ∈ trail, Path.IsName name

theorem wellFormed_empty : WellFormed {} where
  rooted := rooted_empty
  named {trail} h name hname := by
    rw [get?, List.isEmpty_eq_false_iff.mpr (List.ne_nil_of_mem hname),
      if_neg Bool.false_ne_true] at h
    cases h

/-- A new entry under a name in a directory keeps a tree well-formed, unless it is a file that takes
the place of a directory. -/
theorem WellFormed.put (h : t.WellFormed) (hname : Path.IsName name)
    (hparent : t.get? parent = some .directory)
    (hentry : entry = .directory ∨ t.get? (parent ++ [name]) ≠ some .directory) :
    (t.put (parent ++ [name]) entry).WellFormed where
  rooted := h.rooted.put (concat_ne_nil parent name) (by rwa [List.dropLast_concat]) hentry
  named {other} hsome := by
    rw [get?_put t _ entry other (concat_ne_nil parent name)] at hsome
    split at hsome
    · rename_i hother
      rw [hother]
      intro n hn
      rcases List.mem_append.mp hn with hn | hn
      · exact h.named (by rw [hparent]; rfl) n hn
      · rwa [List.mem_singleton.mp hn]
    · exact h.named hsome

/-! ## Growth -/

/-- Where files of certain names stand. -/
def placesOf (made : String → Bool) : Set Trail := {trail | trail.getLast?.any made = true}

theorem concat_mem_placesOf : parent ++ [name] ∈ placesOf made ↔ made name = true := by
  simp [placesOf]

/-- An entry that is a file of another name. -/
def isKept (made : String → Bool) (e : Trail × Entry) : Bool :=
  e.2.kind = .file && !e.1.getLast?.any made

/-- A tree has grown by directories that are not hidden and by files of certain names. -/
structure Grown (made : String → Bool) (t t₁ : FileTree) : Prop
    extends ChangesAt (placesOf made) t t₁ where
  wellFormed : t₁.WellFormed
  hidden : ∀ {trail}, Walk.isHidden trail = true → trail ∉ placesOf made →
    t₁.get? trail = t.get? trail
  kept : t₁.entries.entries.filter (isKept made) = t.entries.entries.filter (isKept made)

namespace Grown

theorem refl (h : t.WellFormed) (made : String → Bool) : Grown made t t where
  toChangesAt := .refl _ t
  wellFormed := h
  hidden _ _ := rfl
  kept := rfl

/-- A directory that is made where a directory was before, or in no hidden place. -/
theorem makeDirectory (h : Grown made t t₁)
    (hplace : t.get? (destination path) = some .directory ∨
      Walk.isHidden (destination path) = false)
    (hmake : t₁.makeDirectory path = .ok t₂) : Grown made t t₂ := by
  obtain ⟨parent, name, hname, hparent, hdestination, hnone, rfl⟩ := exists_of_makeDirectory hmake
  rw [hdestination] at hplace
  have hne := concat_ne_nil parent name
  have hvisible : Walk.isHidden (parent ++ [name]) = false := by
    refine hplace.resolve_left fun hdir => ?_
    rw [h.directory hdir] at hnone
    cases hnone
  refine {
    toChangesAt := h.toChangesAt.trans ((changesAt_put_directory hne hnone).mono
      (Set.empty_subset _))
    wellFormed := h.wellFormed.put hname hparent (Or.inl rfl)
    hidden := ?_
    kept := ?_ }
  · intro other hhidden hother
    rw [get?_put _ _ _ _ hne, if_neg, h.hidden hhidden hother]
    rintro rfl
    rw [hvisible] at hhidden
    cases hhidden
  · rw [← h.kept]
    refine OrderedMap.filter_insertEntry rfl ?_
    intro e hmem
    rw [mem_entries_iff hne, hnone] at hmem
    cases hmem

/-- A file of one of the names that is written. -/
theorem write (h : Grown made t t₁) (hmade : destination path ∈ placesOf made)
    (hwrite : t₁.write path content = .ok t₂) : Grown made t t₂ := by
  obtain ⟨-, parent, name, hname, hparent, hdestination, hfree, rfl⟩ := exists_of_write hwrite
  rw [hdestination] at hmade
  have hne := concat_ne_nil parent name
  have hnot (e : Entry) : isKept made (parent ++ [name], e) = false := by
    have hlast : (parent ++ [name]).getLast?.any made = true := hmade
    rw [isKept, hlast, Bool.not_true, Bool.and_false]
  refine {
    toChangesAt := h.toChangesAt.trans ((changesAt_put_file hne content hfree).mono
      (Set.singleton_subset_iff.mpr hmade))
    wellFormed := h.wellFormed.put hname hparent (Or.inr hfree)
    hidden := ?_
    kept := ?_ }
  · intro other hhidden hother
    rw [get?_put _ _ _ _ hne, if_neg, h.hidden hhidden hother]
    rintro rfl
    exact hother hmade
  · rw [← h.kept]
    exact OrderedMap.filter_insertEntry (hnot _) fun e _ => hnot e

end Grown

/-! ## Ways that can be passed -/

/-- A piece that leads into no hidden place. -/
def IsVisible (piece : String) : Prop := piece = "." ∨ piece.toList.head? ≠ some '.'

/-- On the way through some pieces every place is a directory already, or it is not hidden. -/
def Passable (t : FileTree) (pieces : List String) : Prop :=
  ∀ before, before <+: pieces → t.get? (before.foldl step []) = some .directory ∨
    Walk.isHidden (before.foldl step []) = false

theorem Passable.mono (h : t.Passable rest) (hbefore : before <+: rest) : t.Passable before :=
  fun _ hfront => h _ (hfront.trans hbefore)

/-- Visible pieces lead on to places that are not hidden. -/
theorem Passable.append (h : t.Passable before) (hrest : ∀ piece ∈ rest, IsVisible piece) :
    t.Passable (before ++ rest) := by
  induction rest using List.reverseRecOn with
  | nil => rwa [List.append_nil]
  | append_singleton rest piece ih =>
    have hbefore := ih fun n hn => hrest n (List.mem_append_left _ hn)
    have hvisible := hrest piece (List.mem_append_right _ List.mem_cons_self)
    intro first hfirst
    rw [← List.append_assoc] at hfirst
    rcases List.prefix_concat_iff.mp hfirst with rfl | hfirst
    · rw [List.foldl_append, List.foldl_cons, List.foldl_nil]
      have hplace := hbefore _ (List.prefix_refl _)
      unfold step
      split
      · rename_i hdots
        rw [hdots] at hvisible
        exact absurd hvisible (by simp [IsVisible])
      split
      · exact hplace
      · rename_i hdot
        rw [not_or] at hdot
        refine Or.inr ?_
        have hhead := hvisible.resolve_left hdot.1
        simp [Walk.isHidden, hhead]
    · exact hbefore first hfirst

/-- A path that can be passed goes on by visible pieces. -/
theorem Passable.join {directory : String} (h : t.Passable (Path.pieces directory))
    (hpath : ∀ piece ∈ Path.pieces path, IsVisible piece) :
    t.Passable (Path.pieces (Path.join directory path)) := by
  obtain ⟨kept, hkept, hjoin⟩ := Path.exists_pieces_join directory path
  rw [hjoin]
  exact (h.mono hkept).append hpath

/-- A path that can be passed goes on by visible pieces to a last one. -/
theorem Passable.exists_join {directory : String} (h : t.Passable (Path.pieces directory))
    (hbefore : ∀ piece ∈ before, IsVisible piece) (hpath : Path.pieces path = before ++ [name]) :
    ∃ around, Path.pieces (Path.join directory path) = around ++ [name] ∧ t.Passable around := by
  obtain ⟨kept, hkept, hjoin⟩ := Path.exists_pieces_join directory path
  refine ⟨kept ++ before, ?_, (h.mono hkept).append hbefore⟩
  rw [hjoin, hpath, List.append_assoc]

/-- Pieces that lead to a directory lead through directories. -/
theorem directory_of_follow {names : List String} (h : t.follow trail names = .ok parent)
    (hdir : t.get? parent = some .directory) (hbefore : before <+: names) :
    t.get? (before.foldl step trail) = some .directory := by
  obtain ⟨behind, rfl⟩ := hbefore
  rw [follow_append] at h
  rcases hfollow : t.follow trail before with e | around
  · rw [hfollow] at h
    cases h
  · obtain rfl := follow_eq_ok hfollow
    rw [hfollow] at h
    change t.follow _ behind = _ at h
    cases behind with
    | nil =>
      cases h
      exact hdir
    | cons name behind =>
      rw [follow] at h
      rcases hat : t.directoryAt (before.foldl step trail) with e | around
      · rw [hat] at h
        cases h
      · exact (directoryAt_eq_ok.mp hat).2

/-- A path that leads to a directory and stays below it from there, in no hidden place. -/
def Inside (t : FileTree) (directory : Trail) (path : String) : Prop :=
  ∃ around names, Path.pieces path = around ++ names ∧ t.follow [] around = .ok directory ∧
    ∀ name ∈ names, IsVisible name

theorem inside_of_find (h : t.find path = .ok (trail, .directory)) : t.Inside trail path := by
  have hresolve := (find_eq_ok.mp h).1
  unfold resolve at hresolve
  split at hresolve
  · cases hresolve
  · exact ⟨Path.pieces path, [], (List.append_nil _).symm, hresolve, nofun⟩

/-- A name that is not hidden goes on inside. -/
theorem Inside.join {directory : Trail} (h : t.Inside directory path) (hname : Path.IsName name)
    (hvisible : IsVisible name) : t.Inside directory (Path.join path name) := by
  obtain ⟨around, names, hpieces, hfollow, hnames⟩ := h
  have hdirectory := follow_eq_ok hfollow
  by_cases hempty : path = ""
  · subst hempty
    have hblanks : ∀ blank ∈ around, blank = "" := by
      intro blank hblank
      have hmem : blank ∈ Path.pieces "" := hpieces ▸ List.mem_append_left names hblank
      exact List.mem_singleton.mp hmem
    rw [foldl_step_blank hblanks] at hdirectory
    refine ⟨[], [name], ?_, congrArg Except.ok hdirectory.symm,
      List.forall_mem_singleton.mpr hvisible⟩
    simp [Path.join, hname.pieces]
  · obtain ⟨kept, blanks, hkept, hblanks, hjoin⟩ :=
      Path.exists_pieces_of_join hempty hname.notAbsolute
    rw [hname.pieces] at hjoin
    rw [hkept] at hpieces
    rcases List.append_eq_append_iff.mp hpieces with ⟨rest, rfl, hrest⟩ | ⟨rest, rfl, hrest⟩
    · -- The path ends in slashes behind the directory.
      refine ⟨kept, [name], hjoin, ?_, List.forall_mem_singleton.mpr hvisible⟩
      rw [follow_append] at hfollow
      rcases hbefore : t.follow [] kept with e | before
      · rw [hbefore] at hfollow
        cases hfollow
      · have hends : ∀ blank ∈ rest, blank = "" := fun blank hblank =>
          hblanks blank (hrest ▸ List.mem_append_left names hblank)
        rw [follow_eq_ok hbefore, hdirectory, List.foldl_append, foldl_step_blank hends]
    · refine ⟨around, rest ++ [name], by rw [hjoin, List.append_assoc], hfollow, ?_⟩
      intro n hn
      rcases List.mem_append.mp hn with hn | hn
      · exact hnames n (hrest ▸ List.mem_append_left blanks hn)
      · rwa [List.mem_singleton.mp hn]

/-- A directory and the paths of names that are not hidden lie inside the directory. -/
theorem inside_extend (h : t.find path = .ok (trail, .directory)) {names : List String}
    (hnames : ∀ name ∈ names, Path.IsName name ∧ IsVisible name) :
    t.Inside trail (Path.extend path names) := by
  induction names using List.reverseRecOn with
  | nil => exact inside_of_find h
  | append_singleton names name ih =>
    have hbefore := ih fun n hn => hnames n (List.mem_append_left _ hn)
    obtain ⟨hname, hvisible⟩ := hnames name (List.mem_append_right _ List.mem_cons_self)
    rw [Path.extend, List.foldl_append]
    exact hbefore.join hname hvisible

theorem Inside.passable {directory : Trail} (h : t.Inside directory path)
    (hdir : t.get? directory = some .directory) : t.Passable (Path.pieces path) := by
  obtain ⟨around, names, hpieces, hfollow, hvisible⟩ := h
  rw [hpieces]
  refine Passable.append (fun first hfirst => ?_) hvisible
  exact Or.inl (directory_of_follow hfollow hdir hfirst)

/-! ## Files that are written on the way -/

/-- A file of one of the names is written on a way that can be passed, or it is refused. -/
theorem preserves_writeWithin (hname : made name = true) (hisName : Path.IsName name)
    (hpieces : Path.pieces path = before ++ [name]) (hpass : t.Passable before)
    (content : ByteArray) :
    Preserves (Grown made t)
      (Disk.writeWithin path content : ExceptT IoError (StateM FileTree) Unit) := by
  apply Preserves.writeWithin
  · apply Preserves.makeAround
    intro around haround directory hdirectory
    apply Preserves.changing
    intro t₁ t₂ hgrown hmake
    refine hgrown.makeDirectory ?_ hmake
    rcases (Path.onTheWay_of_parent? hpieces haround).withParents directory hdirectory with
      rfl | rfl | hfront
    · exact Or.inl rfl
    · exact Or.inl rfl
    · exact hpass _ hfront
  · apply Preserves.changing
    intro t₁ t₂ hgrown hwrite
    refine hgrown.write ?_ hwrite
    rw [destination, leadFrom_of_pieces hpieces hisName]
    exact concat_mem_placesOf.mpr hname

end FileTree

end BoundaryGen
