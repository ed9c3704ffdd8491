-- Where a path leads in a tree of files. When it leads anywhere, the place depends on the text of
-- the path alone: each piece goes one step on from the place before it.
import Mathlib
import BoundaryGen.Files.FileTree

namespace BoundaryGen

namespace Path

variable {mark : Char}

/-! ## Pieces of a text -/

theorem splitAt_ne_nil (cs : List Char) : splitAt mark cs ≠ [] := by
  cases cs with
  | nil => exact List.cons_ne_nil _ _
  | cons c cs =>
    rw [splitAt]
    split
    · exact List.cons_ne_nil _ _
    · split <;> exact List.cons_ne_nil _ _

theorem splitAt_of_not_mem {cs : List Char} (h : mark ∉ cs) : splitAt mark cs = [cs] := by
  induction cs with
  | nil => rfl
  | cons c cs ih =>
    rw [List.mem_cons, not_or] at h
    rw [splitAt, if_neg (Ne.symm h.1), ih h.2]

theorem splitAt_append (cs rest : List Char) :
    splitAt mark (cs ++ mark :: rest) = splitAt mark cs ++ splitAt mark rest := by
  induction cs with
  | nil => simp [splitAt]
  | cons c cs ih =>
    rw [List.cons_append, splitAt, splitAt, ih]
    by_cases hc : c = mark
    · rw [if_pos hc, if_pos hc, List.cons_append]
    · rw [if_neg hc, if_neg hc]
      cases hpieces : splitAt mark cs with
      | nil => exact absurd hpieces (splitAt_ne_nil cs)
      | cons piece pieces => rfl

/-- A piece holds characters of the text, and none of them is the mark. -/
theorem mem_of_mem_splitAt {cs piece : List Char} (h : piece ∈ splitAt mark cs) {c : Char}
    (hc : c ∈ piece) : c ∈ cs ∧ c ≠ mark := by
  induction cs generalizing piece with
  | nil =>
    rw [splitAt, List.mem_singleton] at h
    rw [h] at hc
    cases hc
  | cons a cs ih =>
    rw [splitAt] at h
    split at h
    · rcases List.mem_cons.mp h with rfl | h
      · cases hc
      · exact ⟨List.mem_cons_of_mem a (ih h hc).1, (ih h hc).2⟩
    · rename_i ha
      cases hpieces : splitAt mark cs with
      | nil => exact absurd hpieces (splitAt_ne_nil cs)
      | cons first pieces =>
        rw [hpieces] at h ih
        rcases List.mem_cons.mp h with rfl | h
        · rcases List.mem_cons.mp hc with rfl | hc
          · exact ⟨List.mem_cons_self, ha⟩
          · obtain ⟨hmem, hne⟩ := ih List.mem_cons_self hc
            exact ⟨List.mem_cons_of_mem a hmem, hne⟩
        · obtain ⟨hmem, hne⟩ := ih (List.mem_cons_of_mem first h) hc
          exact ⟨List.mem_cons_of_mem a hmem, hne⟩

theorem noSlash_of_mem_pieces {path piece : String} (h : piece ∈ pieces path) :
    '/' ∉ piece.toList := by
  obtain ⟨chars, hchars, rfl⟩ := List.mem_map.mp h
  intro hslash
  rw [String.toList_ofList] at hslash
  exact (mem_of_mem_splitAt hchars hslash).2 rfl

/-- The pieces of two paths with a slash between them. -/
theorem pieces_append (path rest : String) :
    pieces (path ++ "/" ++ rest) = pieces path ++ pieces rest := by
  unfold pieces
  rw [String.toList_append, String.toList_append, List.append_assoc]
  exact (congrArg _ (splitAt_append path.toList rest.toList)).trans List.map_append

/-! ## Names as paths -/

/-- A text that names an entry of a directory. -/
structure IsName (name : String) : Prop where
  noSlash : '/' ∉ name.toList
  nonempty : name ≠ ""
  noDot : name ≠ "."
  noDots : name ≠ ".."

instance (name : String) : Decidable (IsName name) :=
  decidable_of_iff ('/' ∉ name.toList ∧ name ≠ "" ∧ name ≠ "." ∧ name ≠ "..")
    ⟨fun ⟨noSlash, nonempty, noDot, noDots⟩ => ⟨noSlash, nonempty, noDot, noDots⟩,
      fun ⟨noSlash, nonempty, noDot, noDots⟩ => ⟨noSlash, nonempty, noDot, noDots⟩⟩

theorem IsName.pieces {name : String} (h : IsName name) : pieces name = [name] := by
  rw [Path.pieces, splitAt_of_not_mem h.noSlash, List.map_singleton, String.ofList_toList]

theorem isAbsolute_of_noSlash {name : String} (h : '/' ∉ name.toList) :
    isAbsolute name = false := by
  unfold isAbsolute
  rcases hchars : name.toList with _ | ⟨c, cs⟩
  · rfl
  · rw [hchars, List.mem_cons, not_or] at h
    simpa using Ne.symm h.1

theorem IsName.notAbsolute {name : String} (h : IsName name) : isAbsolute name = false :=
  isAbsolute_of_noSlash h.noSlash

theorem isAbsolute_append {path rest : String} (h : path ≠ "") :
    isAbsolute (path ++ rest) = isAbsolute path := by
  unfold isAbsolute
  rw [String.toList_append]
  rcases hchars : path.toList with _ | ⟨c, cs⟩
  · exact absurd (String.toList_eq_nil_iff.mp hchars) h
  · rfl

/-- A path below a directory that is not absolute is not absolute either. -/
theorem isAbsolute_join {directory path : String} (hd : isAbsolute directory = false)
    (hp : isAbsolute path = false) : isAbsolute (join directory path) = false := by
  unfold join
  by_cases hempty : directory = ""
  · rw [hempty]
    simpa using hp
  · rw [hp, String.isEmpty_eq_false_iff.mpr hempty, Bool.or_self, if_neg Bool.false_ne_true]
    split
    · rw [isAbsolute_append hempty, hd]
    · rw [String.append_assoc, isAbsolute_append hempty, hd]

/-- The pieces of a path below a directory are those of both. A slash at the end of the directory
leaves an empty piece, which the path takes over. -/
theorem exists_pieces_of_join {directory path : String} (hd : directory ≠ "")
    (hp : isAbsolute path = false) :
    ∃ kept blanks, pieces directory = kept ++ blanks ∧ (∀ blank ∈ blanks, blank = "") ∧
      pieces (join directory path) = kept ++ pieces path := by
  unfold join
  rw [hp, String.isEmpty_eq_false_iff.mpr hd, Bool.or_self, if_neg Bool.false_ne_true]
  split
  · rename_i hslash
    obtain ⟨cs, hcs⟩ := List.getLast?_eq_some_iff.mp hslash
    have hdirectory : directory = String.ofList cs ++ "/" ++ "" := by
      apply String.toList_injective
      simpa using hcs
    refine ⟨pieces (String.ofList cs), [""], ?_, fun blank => List.mem_singleton.mp, ?_⟩
    · rw [hdirectory, pieces_append]
      rfl
    · rw [hdirectory, String.append_empty, pieces_append]
  · exact ⟨pieces directory, [], (List.append_nil _).symm, nofun, pieces_append directory path⟩

end Path

namespace FileTree

/-! ## Destinations -/

/-- Where a path leads from a place, if it leads anywhere. -/
def leadFrom (trail : Trail) (path : String) : Trail := (Path.pieces path).foldl step trail

/-- Where a path leads from the root, if it leads anywhere. -/
def destination (path : String) : Trail := leadFrom [] path

theorem step_of_isName {name : String} (h : Path.IsName name) (trail : Trail) :
    step trail name = trail ++ [name] := by
  unfold step
  rw [if_neg h.noDots, if_neg (not_or.mpr ⟨h.noDot, h.nonempty⟩)]

/-- A path that ends in a name leads there from where the pieces before lead. -/
theorem leadFrom_of_pieces {path name : String} {around : List String}
    (h : Path.pieces path = around ++ [name]) (hname : Path.IsName name) (trail : Trail) :
    leadFrom trail path = around.foldl step trail ++ [name] := by
  rw [leadFrom, h, List.foldl_append, List.foldl_cons, List.foldl_nil, step_of_isName hname]

theorem leadFrom_of_isName {name : String} (h : Path.IsName name) (trail : Trail) :
    leadFrom trail name = trail ++ [name] := by
  have hpieces : Path.pieces name = [] ++ [name] := h.pieces
  exact leadFrom_of_pieces hpieces h trail

theorem leadFrom_empty (trail : Trail) : leadFrom trail "" = trail := rfl

theorem foldl_step_blank {names : List String} (h : ∀ name ∈ names, name = "") (trail : Trail) :
    names.foldl step trail = trail := by
  induction names with
  | nil => rfl
  | cons name names ih =>
    rw [List.foldl_cons, h name List.mem_cons_self]
    exact ih fun n hn => h n (List.mem_cons_of_mem name hn)

/-- The path of an entry leads on from where the directory leads. -/
theorem leadFrom_join (trail : Trail) {directory path : String} (h : Path.isAbsolute path = false) :
    leadFrom trail (Path.join directory path) = leadFrom (leadFrom trail directory) path := by
  by_cases hempty : directory = ""
  · rw [hempty, leadFrom_empty, Path.join]
    simp
  · obtain ⟨kept, blanks, hdirectory, hblanks, hjoin⟩ := Path.exists_pieces_of_join hempty h
    rw [leadFrom, leadFrom, leadFrom, hjoin, hdirectory, List.foldl_append, List.foldl_append,
      foldl_step_blank hblanks]

/-- A path of names leads through these names. -/
theorem leadFrom_extend (trail : Trail) {names : List String} (h : ∀ name ∈ names, Path.IsName name)
    (directory : String) :
    leadFrom trail (Path.extend directory names) = leadFrom trail directory ++ names := by
  unfold Path.extend
  induction names generalizing directory with
  | nil => exact (List.append_nil _).symm
  | cons name names ih =>
    have hname := h name List.mem_cons_self
    rw [List.foldl_cons, ih fun n hn => h n (List.mem_cons_of_mem name hn),
      leadFrom_join trail hname.notAbsolute, leadFrom_of_isName hname, List.append_assoc]
    rfl

theorem isAbsolute_extend {names : List String} (h : ∀ name ∈ names, Path.IsName name)
    {directory : String} (hd : Path.isAbsolute directory = false) :
    Path.isAbsolute (Path.extend directory names) = false := by
  unfold Path.extend
  induction names generalizing directory with
  | nil => exact hd
  | cons name names ih =>
    have hname := h name List.mem_cons_self
    exact ih (fun n hn => h n (List.mem_cons_of_mem name hn))
      (Path.isAbsolute_join hd hname.notAbsolute)

/-! ## Paths that lead to their destination -/

variable {t : FileTree} {path : String} {trail trail' : Trail}

theorem directoryAt_eq_ok :
    t.directoryAt trail = .ok trail' ↔ trail' = trail ∧ t.get? trail = some .directory := by
  unfold directoryAt
  split
  · rename_i hdir
    rw [hdir, Except.ok.injEq]
    exact ⟨fun h => ⟨h.symm, rfl⟩, fun h => h.1.symm⟩
  · rename_i content hfile
    rw [hfile]
    simp
  · rename_i hnone
    rw [hnone]
    simp

theorem follow_eq_ok {names : List String} (h : t.follow trail names = .ok trail') :
    trail' = names.foldl step trail := by
  induction names generalizing trail with
  | nil =>
    cases h
    rfl
  | cons name names ih =>
    rw [follow] at h
    rcases hd : t.directoryAt trail with e | around
    · rw [hd] at h
      cases h
    · rw [hd] at h
      obtain ⟨rfl, -⟩ := directoryAt_eq_ok.mp hd
      exact ih h

theorem resolve_eq_ok (h : t.resolve path = .ok trail) : trail = destination path := by
  unfold resolve at h
  split at h
  · cases h
  · exact follow_eq_ok h

theorem find_eq_ok {entry : Entry} : t.find path = .ok (trail, entry) ↔
    t.resolve path = .ok trail ∧ t.get? trail = some entry := by
  unfold find
  rcases hresolve : t.resolve path with e | other
  · exact ⟨(by cases ·), (by cases ·.1)⟩
  · simp only [bind, Except.bind, Except.ok.injEq]
    constructor
    · intro h
      split at h
      · rename_i entry' hget
        cases h
        exact ⟨rfl, hget⟩
      · cases h
    · rintro ⟨rfl, hget⟩
      rw [hget]
      rfl

/-- A path leads on as long as directories stay directories. -/
theorem follow_mono {t' : FileTree}
    (h : ∀ trail, t.get? trail = some .directory → t'.get? trail = some .directory)
    {names : List String} (hf : t.follow trail names = .ok trail') :
    t'.follow trail names = .ok trail' := by
  induction names generalizing trail with
  | nil => exact hf
  | cons name names ih =>
    rw [follow] at hf ⊢
    rcases hd : t.directoryAt trail with e | around
    · rw [hd] at hf
      cases hf
    · obtain ⟨rfl, hdir⟩ := directoryAt_eq_ok.mp hd
      rw [hd] at hf
      rw [directoryAt_eq_ok.mpr ⟨rfl, h _ hdir⟩]
      exact ih hf

theorem follow_append (t : FileTree) (trail : Trail) (names names' : List String) :
    t.follow trail (names ++ names') = (do t.follow (← t.follow trail names) names') := by
  induction names generalizing trail with
  | nil => rfl
  | cons name names ih =>
    rw [List.cons_append, follow, follow]
    cases t.directoryAt trail with
    | error e => rfl
    | ok around => exact ih _

/-- Behind its last piece that is not empty a path has nothing but slashes. -/
theorem exists_pieces_blank {name : String} {around : List String}
    (h : (Path.pieces path).reverse.dropWhile (· = "") = name :: around) :
    name ≠ "" ∧ ∃ blanks, Path.pieces path = around.reverse ++ name :: blanks ∧
      ∀ blank ∈ blanks, blank = "" := by
  constructor
  · have hhead := List.dropWhile_get_zero_not (fun piece : String => decide (piece = ""))
      (Path.pieces path).reverse (by rw [h]; exact Nat.zero_lt_succ _)
    simpa [h] using hhead
  · refine ⟨((Path.pieces path).reverse.takeWhile (· = "")).reverse, ?_, ?_⟩
    · have hsplit := List.takeWhile_append_dropWhile
        (p := fun piece : String => decide (piece = "")) (l := (Path.pieces path).reverse)
      rw [h] at hsplit
      have hback := congrArg List.reverse hsplit
      rw [List.reverse_append, List.reverse_cons, List.reverse_reverse, List.append_assoc] at hback
      exact hback.symm
    · intro blank hblank
      simpa using List.mem_takeWhile_imp (List.mem_reverse.mp hblank)

/-- A place for a new entry lies in a directory, under a name of the path. Behind the name there are
only slashes, and none of them unless the entry is to be a directory. -/
theorem exists_of_place {place : Place} (h : t.place path = .ok place)
    (hplace : place = .any trail ∨ place = .directoryOnly trail) :
    ∃ around name blanks parent, Path.pieces path = around ++ name :: blanks ∧
      (∀ blank ∈ blanks, blank = "") ∧ (place = .any trail → blanks = []) ∧ Path.IsName name ∧
      t.follow [] around = .ok parent ∧ t.get? parent = some .directory ∧
      trail = parent ++ [name] := by
  have hstanding : place ≠ .standing := by
    rintro rfl
    rcases hplace with h | h <;> cases h
  unfold FileTree.place at h
  split at h
  · cases h
  dsimp only at h
  split at h
  · exact absurd (Except.ok.inj h).symm hstanding
  rename_i name around hpieces
  rcases hfollow : t.follow [] around.reverse with e | parent
  · rw [hfollow] at h
    cases h
  rcases hdirectory : t.directoryAt parent with e | parent'
  · simp only [hfollow, hdirectory, bind, Except.bind] at h
    cases h
  obtain ⟨rfl, hdir⟩ := directoryAt_eq_ok.mp hdirectory
  simp only [hfollow, hdirectory, bind, Except.bind] at h
  split at h
  · exact absurd (Except.ok.inj h).symm hstanding
  rename_i hdots
  rw [not_or] at hdots
  obtain ⟨hne, blanks, hsplit, hblanks⟩ := exists_pieces_blank hpieces
  have hslash := Path.noSlash_of_mem_pieces (hsplit ▸ List.mem_append_right _ List.mem_cons_self)
  refine ⟨around.reverse, name, blanks, parent', hsplit, hblanks, ?_,
    ⟨hslash, hne, hdots.1, hdots.2⟩, hfollow, hdir, ?_⟩
  · rintro rfl
    split at h
    · cases h
    rename_i hhead
    rcases blanks.eq_nil_or_concat with hnil | ⟨before, blank, rfl⟩
    · exact hnil
    · rw [List.concat_eq_append] at hsplit hblanks
      rw [hsplit, hblanks blank (List.mem_append_right _ List.mem_cons_self)] at hhead
      simp at hhead
  · split at h <;> cases h <;> rcases hplace with h | h <;> cases h <;> rfl

/-- A place for a new entry, a directory or any, is where its path leads, under a name in a
directory. -/
theorem exists_of_place_eq {place : Place} (h : t.place path = .ok place)
    (hplace : place = .any trail ∨ place = .directoryOnly trail) :
    ∃ parent name, Path.IsName name ∧ t.get? parent = some .directory ∧
      trail = parent ++ [name] ∧ trail = destination path := by
  obtain ⟨around, name, blanks, parent, hpieces, hblanks, -, hname, hfollow, hdir, htrail⟩ :=
    exists_of_place h hplace
  refine ⟨parent, name, hname, hdir, htrail, ?_⟩
  rw [htrail, destination, leadFrom, hpieces, List.foldl_append, List.foldl_cons,
    foldl_step_blank hblanks, step_of_isName hname, ← follow_eq_ok hfollow]

/-- A place for any new entry is where its path leads. -/
theorem resolve_of_place (h : t.place path = .ok (.any trail)) : t.resolve path = .ok trail := by
  have hempty : path.isEmpty = false := by
    by_contra hempty
    unfold place at h
    rw [if_pos (Bool.not_eq_false _ ▸ hempty)] at h
    cases h
  obtain ⟨around, name, blanks, parent, hpieces, -, hnone, hname, hfollow, hdir, rfl⟩ :=
    exists_of_place h (Or.inl rfl)
  rw [resolve, hempty, if_neg Bool.false_ne_true, hpieces, hnone rfl, follow_append, hfollow]
  show t.follow parent [name] = .ok (parent ++ [name])
  rw [follow, directoryAt_eq_ok.mpr ⟨rfl, hdir⟩, ← step_of_isName hname]
  rfl

end FileTree

end BoundaryGen
