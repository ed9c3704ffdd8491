-- What a walk from a directory sees of a tree, and that it sees the same files of other names when
-- the tree has grown. The rules that a directory has for its entries stand in files of names that
-- are not written, and every directory around a file that was there before was there as well.
import Mathlib
import BoundaryGen.Proofs.Files.Growth

namespace BoundaryGen

namespace FileTree

open Ignore (RuleSet)

variable {t t' : FileTree} {trail root start : Trail} {path directory name text : String}
  {entry : Entry} {content : ByteArray} {made : String → Bool} {places : Set Trail}
  {around : List String} {e : Trail × Entry}

/-! ## Paths to directories -/

theorem ChangesAt.find_directory (h : ChangesAt places t t')
    (hfind : t.find path = .ok (trail, .directory)) : t'.find path = .ok (trail, .directory) := by
  obtain ⟨hresolve, hdir⟩ := find_eq_ok.mp hfind
  exact find_eq_ok.mpr ⟨h.resolve hresolve, h.directory hdir⟩

/-- A path below a directory goes on from there. -/
theorem resolve_join (h : t.find directory = .ok (trail, .directory))
    (hp : Path.isAbsolute path = false) :
    t.resolve (Path.join directory path) = t.follow trail (Path.pieces path) := by
  have hresolve := (find_eq_ok.mp h).1
  have hempty : directory ≠ "" := by
    rintro rfl
    cases hresolve
  obtain ⟨kept, blanks, hdirectory, hblanks, hjoin⟩ := Path.exists_pieces_of_join hempty hp
  rw [resolve, if_neg (by simpa using hempty), hdirectory, follow_append] at hresolve
  rcases hkept : t.follow [] kept with e | before
  · rw [hkept] at hresolve
    cases hresolve
  · rw [hkept] at hresolve
    have htrail : trail = before := (follow_eq_ok hresolve).trans (foldl_step_blank hblanks before)
    have hnonempty : Path.join directory path ≠ "" := by
      unfold Path.join
      rw [hp, String.isEmpty_eq_false_iff.mpr hempty, Bool.or_self, if_neg Bool.false_ne_true]
      split <;> simp [hempty]
    rw [resolve, if_neg (by simpa using hnonempty), hjoin, follow_append, hkept, htrail]
    rfl

theorem resolve_join_name (h : t.find directory = .ok (trail, .directory))
    (hname : Path.IsName name) : t.resolve (Path.join directory name) = .ok (trail ++ [name]) := by
  rw [resolve_join h hname.notAbsolute, hname.pieces, follow,
    directoryAt_eq_ok.mpr ⟨rfl, (find_eq_ok.mp h).2⟩, ← step_of_isName hname]
  rfl

theorem kind?_join_name (h : t.find directory = .ok (trail, .directory))
    (hname : Path.IsName name) :
    t.kind? (Path.join directory name) = (t.get? (trail ++ [name])).map Entry.kind := by
  unfold kind? find
  simp only [resolve_join_name h hname, bind, Except.bind]
  cases t.get? (trail ++ [name]) <;> rfl

theorem kind?_join_name_eq_file (h : t.find directory = .ok (trail, .directory))
    (hname : Path.IsName name) : t.kind? (Path.join directory name) = some .file ↔
      ∃ content, t.get? (trail ++ [name]) = some (.file content) := by
  rw [kind?_join_name h hname]
  rcases t.get? (trail ++ [name]) with _ | _ | content <;> simp [Entry.kind]

theorem WellFormed.find_ofRoot (h : t.WellFormed) (hdir : t.get? trail = some .directory) :
    t.find (Path.ofRoot trail) = .ok (trail, .directory) := by
  induction trail using List.reverseRecOn with
  | nil => rfl
  | append_singleton trail name ih =>
    have hsome : (t.get? (trail ++ [name])).isSome := by
      rw [hdir]
      rfl
    have hname := h.named hsome name (List.mem_append_right _ List.mem_cons_self)
    have hpath : Path.ofRoot (trail ++ [name]) = Path.join (Path.ofRoot trail) name :=
      List.foldl_append
    rw [hpath]
    exact find_eq_ok.mpr ⟨resolve_join_name (ih (h.rooted trail name hsome)) hname, hdir⟩

/-! ## Files in place -/

/-- A file away from the places of a change is read exactly as before, when a path to a file leads
to it. -/
theorem ChangesAt.read_iff (h : ChangesAt places t t') (hp : destination path ∉ places)
    (hreach : (t.get? (destination path)).isSome → t.resolve path = .ok (destination path)) :
    t'.read path = .ok content ↔ t.read path = .ok content := by
  constructor
  · intro hread
    have hget := (h.file hp content).mp (read_eq_ok.mp hread).2
    exact read_eq_ok.mpr ⟨hreach (by rw [hget]; rfl), hget⟩
  · exact h.read hp

/-- Inside a directory whose path comes from the root a file is read exactly as before. -/
theorem Grown.read_ofRoot (h : Grown made t t') (ht : t.WellFormed)
    (hdir : t.get? trail = some .directory) (hpieces : Path.pieces text = around ++ [name])
    (hname : Path.IsName name) (haround : ".." ∉ around) (hmade : made name = false) :
    t'.read (Path.join (Path.ofRoot trail) text) = .ok content ↔
      t.read (Path.join (Path.ofRoot trail) text) = .ok content := by
  obtain ⟨kept, hkept, hjoin⟩ := Path.exists_pieces_join (Path.ofRoot trail) text
  rw [hpieces, ← List.append_assoc] at hjoin
  have hback : ".." ∉ kept ++ around := by
    rw [List.mem_append, not_or]
    refine ⟨fun hmem => ?_, haround⟩
    rcases Path.mem_pieces_extend (hkept.subset hmem) with hroot | ⟨part, hpart, hmem⟩
    · revert hroot
      decide
    · have hpart := ht.named (by rw [hdir]; rfl) part hpart
      rw [hpart.pieces, List.mem_singleton] at hmem
      exact hpart.noDots hmem.symm
  apply h.read_iff
  · rw [destination, leadFrom_of_pieces hjoin hname, concat_mem_placesOf, hmade]
    exact Bool.false_ne_true
  · exact ht.rooted.resolve hjoin hname hback

/-! ## The rules of a directory -/

/-- The rules of a file, when there is one. -/
def rulesAt (t : FileTree) (path : String) : List Ignore.Rule :=
  match (t.read path).toOption with
  | some content => Ignore.rules content
  | none => []

/-- What the directory at a trail says about the entries below it. -/
def ruleSetAt (t : FileTree) (trail : Trail) : RuleSet where
  trail
  plain := t.rulesAt (Path.join (Path.ofRoot trail) ".ignore")
  git := t.rulesAt (Path.join (Path.ofRoot trail) ".gitignore")
  repository := t.rulesAt (Path.join (Path.ofRoot trail) ".git/info/exclude")
  isRepository := (t.kind? (Path.join (Path.ofRoot trail) ".git")).isSome

theorem run_rulesAt (t : FileTree) (path : String) :
    (Walk.rulesAt path : StateM FileTree _).run t = (t.rulesAt path, t) := by
  unfold Walk.rulesAt rulesAt
  rw [StateT.run_bind, run_read?]
  cases (t.read path).toOption <;> rfl

theorem run_ruleSetAt (t : FileTree) (trail : Trail) :
    (Walk.ruleSetAt trail : StateM FileTree _).run t = (t.ruleSetAt trail, t) := by
  unfold Walk.ruleSetAt
  simp only [StateT.run_bind, run_rulesAt]
  rfl

/-- The names of the files with rules, and of what is at the top of a repository. -/
def ruleNames : List String := [".ignore", ".gitignore", "exclude", ".git"]

theorem Grown.rulesAt (h : Grown made t t') (ht : t.WellFormed)
    (hdir : t.get? trail = some .directory) (hpieces : Path.pieces text = around ++ [name])
    (hname : Path.IsName name) (haround : ".." ∉ around) (hmade : made name = false) :
    t'.rulesAt (Path.join (Path.ofRoot trail) text) =
      t.rulesAt (Path.join (Path.ofRoot trail) text) := by
  have hread (content : ByteArray) : t'.read (Path.join (Path.ofRoot trail) text) = .ok content ↔
      t.read (Path.join (Path.ofRoot trail) text) = .ok content :=
    h.read_ofRoot ht hdir hpieces hname haround hmade
  have hsame : (t'.read (Path.join (Path.ofRoot trail) text)).toOption =
      (t.read (Path.join (Path.ofRoot trail) text)).toOption :=
    Option.ext fun content => by rw [toOption_eq_some, toOption_eq_some, hread]
  rw [FileTree.rulesAt, FileTree.rulesAt, hsame]

/-- A directory keeps its rules. -/
theorem Grown.ruleSetAt (h : Grown made t t') (ht : t.WellFormed)
    (hrules : ∀ name ∈ ruleNames, made name = false) (hdir : t.get? trail = some .directory) :
    t'.ruleSetAt trail = t.ruleSetAt trail := by
  have hfind := ht.find_ofRoot hdir
  have hsame : t'.get? (trail ++ [".git"]) = t.get? (trail ++ [".git"]) := by
    refine h.hidden ?_ ?_
    · simp [Walk.isHidden]
    · rw [concat_mem_placesOf, hrules ".git" (by decide)]
      exact Bool.false_ne_true
  have hkind : t'.kind? (Path.join (Path.ofRoot trail) ".git") =
      t.kind? (Path.join (Path.ofRoot trail) ".git") := by
    have hgit : Path.IsName ".git" := by decide
    rw [kind?_join_name hfind hgit, kind?_join_name (h.find_directory hfind) hgit, hsame]
  have hpieces : Path.pieces ".ignore" = [] ++ [".ignore"] := rfl
  have hplain := h.rulesAt ht hdir hpieces (by decide) (by decide) (hrules ".ignore" (by decide))
  have hpieces : Path.pieces ".gitignore" = [] ++ [".gitignore"] := rfl
  have hgit := h.rulesAt ht hdir hpieces (by decide) (by decide) (hrules ".gitignore" (by decide))
  have hpieces : Path.pieces ".git/info/exclude" = [".git", "info"] ++ ["exclude"] := rfl
  have hrepository := h.rulesAt ht hdir hpieces (by decide) (by decide)
    (hrules "exclude" (by decide))
  unfold FileTree.ruleSetAt
  rw [hplain, hgit, hrepository, hkind]

/-! ## The files that a walk sees -/

section Programs

variable {α β : Type}

theorem run_bind_of_run {x : StateM FileTree α} {f : α → StateM FileTree β} {a : α}
    (h : x.run t = (a, t')) : (x >>= f).run t = (f a).run t' := by
  rw [StateT.run_bind, h]
  rfl

theorem run_mapM {f : α → StateM FileTree β} {g : α → β} (h : ∀ a, (f a).run t = (g a, t))
    (list : List α) : (list.mapM f).run t = (list.map g, t) := by
  induction list with
  | nil => rfl
  | cons a list ih =>
    rw [List.mapM_cons, run_bind_of_run (h a), run_bind_of_run ih]
    rfl

end Programs

/-- The rules that a walk obeys. -/
def ruleSets (t : FileTree) (path : String) (root : Trail) : List RuleSet :=
  (Walk.ruleTrails root (t.below path)).map t.ruleSetAt

/-- Whether an entry is a file that is seen from a directory. -/
def isSeenFrom (t : FileTree) (path : String) (root : Trail) (e : Trail × Entry) : Bool :=
  root.isPrefixOf e.1 && root.length < e.1.length && e.2.kind = .file &&
    Walk.isSeen (t.ruleSets path root) root (e.1.drop root.length)

/-- The path of an entry below a directory. -/
def pathBelow (path : String) (root : Trail) (e : Trail × Entry) : String :=
  Path.extend path (e.1.drop root.length)

theorem run_filesBelow (h : t.find path = .ok (root, .directory)) :
    (Walk.filesBelow path : StateM FileTree _).run t =
      ((t.entries.entries.filter (t.isSeenFrom path root)).map (pathBelow path root), t) := by
  have hkind : t.kind? path = some .directory := by
    unfold kind?
    rw [h]
    rfl
  have hlocate : t.locate? path = some root := by
    unfold locate?
    rw [h]
  have hbelow : t.below path = (t.entries.entries.filter fun e =>
      root.isPrefixOf e.1 && root.length < e.1.length).map
        fun e => (e.1.drop root.length, e.2.kind) := by
    unfold below
    rw [(find_eq_ok.mp h).1]
  have hasked : (Disk.kind? path : StateM FileTree _).run t = (some .directory, t) :=
    congrArg (·, t) hkind
  have hlocated : (Disk.locate? path : StateM FileTree _).run t = (some root, t) :=
    congrArg (·, t) hlocate
  have hentries : (Disk.below path : StateM FileTree _).run t = (t.below path, t) := rfl
  have hsets := run_mapM (run_ruleSetAt t) (Walk.ruleTrails root (t.below path))
  unfold Walk.filesBelow
  rw [run_bind_of_run hasked]
  dsimp only
  rw [run_bind_of_run hlocated, run_bind_of_run hentries, Option.getD_some, run_bind_of_run hsets]
  have hfiles : (((t.below path).filter fun e => e.2 = .file).map (·.1)).filter
      (Walk.isSeen (t.ruleSets path root) root) =
        (t.entries.entries.filter (t.isSeenFrom path root)).map fun e => e.1.drop root.length := by
    generalize hrules : t.ruleSets path root = sets
    unfold isSeenFrom
    rw [hrules, hbelow]
    simp only [List.filter_map, List.map_map, List.filter_filter, Function.comp_def]
    refine congrArg (List.map _) (List.filter_congr fun e _ => ?_)
    rw [Bool.and_comm (Walk.isSeen _ _ _), Bool.and_comm (decide (e.2.kind = _))]
  show (List.map (Path.extend path) _, t) = _
  rw [ruleSets] at hfiles
  rw [hfiles, List.map_map]
  rfl

/-! ## Directories around a file -/

/-- What stands around an entry is a directory. -/
theorem Rooted.directory_of_prefix (h : t.Rooted) (hsome : (t.get? trail).isSome)
    (hstart : start <+: trail) (hne : start ≠ trail) : t.get? start = some .directory := by
  rcases trail.eq_nil_or_concat with rfl | ⟨parent, name, rfl⟩
  · exact absurd (List.prefix_nil.mp hstart) hne
  · rw [List.concat_eq_append] at hsome hstart hne
    rcases List.prefix_concat_iff.mp hstart with heq | hstart
    · exact absurd heq hne
    · exact h.get?_of_prefix (h parent name hsome) hstart

/-- A walk obeys the directories on the way to it and those that it passes. -/
theorem mem_ruleTrails (hfind : t.find path = .ok (root, .directory))
    (hdir : t.get? start = some .directory) (hstart : start <+: root ∨ root <+: start) :
    start ∈ Walk.ruleTrails root (t.below path) := by
  unfold Walk.ruleTrails
  rw [List.mem_append]
  by_cases haround : start <+: root
  · refine Or.inl (List.mem_map.mpr ⟨start.length, ?_, ?_⟩)
    · exact List.mem_range.mpr (Nat.lt_succ_of_le haround.length_le)
    · exact (List.prefix_iff_eq_take.mp haround).symm
  · obtain ⟨rest, rfl⟩ := hstart.resolve_left haround
    have hrest : rest ≠ [] := by
      rintro rfl
      exact haround (by rw [List.append_nil])
    refine Or.inr (List.mem_map.mpr ⟨(rest, .directory), ?_, rfl⟩)
    refine List.mem_filter.mpr ⟨?_, rfl⟩
    unfold below
    rw [(find_eq_ok.mp hfind).1]
    refine List.mem_map.mpr ⟨(root ++ rest, .directory), List.mem_filter.mpr ⟨?_, ?_⟩, ?_⟩
    · exact (mem_entries_iff (List.append_ne_nil_of_right_ne_nil root hrest)).mpr hdir
    · simp [List.length_pos_iff.mpr hrest]
    · simp [Entry.kind]

theorem find?_ruleSetAt {trails : List Trail} (h : start ∈ trails) :
    (trails.map t.ruleSetAt).find? (fun s => decide (s.trail = start)) =
      some (t.ruleSetAt start) := by
  rw [List.find?_map]
  have hfound : trails.find? (fun other => decide (other = start)) = some start := by
    rcases hfind : trails.find? (fun other => decide (other = start)) with _ | other
    · exact absurd (decide_eq_true rfl) (List.find?_eq_none.mp hfind start h)
    · have hother := List.find?_some hfind
      rw [of_decide_eq_true hother]
  exact congrArg (Option.map t.ruleSetAt) hfound

/-- The rules around an entry come from the directories around it. -/
theorem setsAround_congr {trails trails' : List Trail}
    (h : ∀ start, start <+: trail → start ≠ trail →
      start ∈ trails ∧ start ∈ trails' ∧ t'.ruleSetAt start = t.ruleSetAt start) :
    Walk.setsAround (trails'.map t'.ruleSetAt) trail =
      Walk.setsAround (trails.map t.ruleSetAt) trail := by
  unfold Walk.setsAround
  refine List.filterMap_congr fun n hn => ?_
  have hlength : n < trail.length := List.mem_range.mp (List.mem_reverse.mp hn)
  have hne : trail.take n ≠ trail := by
    intro heq
    have hsame := congrArg List.length heq
    rw [List.length_take, Nat.min_eq_left hlength.le] at hsame
    exact hlength.ne hsame
  obtain ⟨hmem, hmem', hrules⟩ := h _ (List.take_prefix n trail) hne
  rw [find?_ruleSetAt hmem, find?_ruleSetAt hmem', hrules]

/-- Rules that are the same around all that lies on the way to a file show it or leave it out
alike. -/
theorem isSeen_congr {sets sets' : List RuleSet} {below : Trail}
    (h : ∀ trail, trail <+: root ++ below →
      Walk.setsAround sets trail = Walk.setsAround sets' trail) :
    Walk.isSeen sets root below = Walk.isSeen sets' root below := by
  unfold Walk.isSeen
  refine List.all_congr rfl fun n => ?_
  have hfront : root ++ below.take (n + 1) <+: root ++ below :=
    (List.prefix_append_right_inj root).mpr (List.take_prefix (n + 1) below)
  unfold Walk.isLeftOut
  rw [h _ hfront]

/-! ## The same walk when the tree has grown -/

theorem get?_of_mem_below (he : e ∈ t.entries.entries) (hbelow : root.length < e.1.length) :
    t.get? e.1 = some e.2 :=
  (mem_entries_iff (List.ne_nil_of_length_pos (Nat.zero_lt_of_lt hbelow))).mp he

/-- A file that was there is seen as before. -/
theorem Grown.isSeenFrom (h : Grown made t t') (ht : t.WellFormed)
    (hrules : ∀ name ∈ ruleNames, made name = false)
    (hfind : t.find path = .ok (root, .directory)) (he : e ∈ t.entries.entries) :
    t'.isSeenFrom path root e = t.isSeenFrom path root e := by
  unfold FileTree.isSeenFrom
  by_cases hbelow : root <+: e.1 ∧ root.length < e.1.length
  · obtain ⟨hroot, hlength⟩ := hbelow
    have hsome : (t.get? e.1).isSome := by
      rw [get?_of_mem_below he hlength]
      rfl
    have hseen : Walk.isSeen (t'.ruleSets path root) root (e.1.drop root.length) =
        Walk.isSeen (t.ruleSets path root) root (e.1.drop root.length) := by
      refine isSeen_congr fun trail htrail => setsAround_congr fun start hstart hne => ?_
      rw [List.prefix_iff_eq_append.mp hroot] at htrail
      have hdir : t.get? start = some .directory := by
        refine ht.rooted.directory_of_prefix hsome (hstart.trans htrail) ?_
        rintro rfl
        exact hne (hstart.eq_of_length_le htrail.length_le)
      have hway := List.prefix_or_prefix_of_prefix (hstart.trans htrail) hroot
      exact ⟨mem_ruleTrails hfind hdir hway,
        mem_ruleTrails (h.find_directory hfind) (h.directory hdir) hway,
        h.ruleSetAt ht hrules hdir⟩
    rw [hseen]
  · have hout : (root.isPrefixOf e.1 && decide (root.length < e.1.length)) = false := by
      simpa using hbelow
    rw [hout, Bool.false_and, Bool.false_and, Bool.false_and]

/-- A file that is seen below a directory and is wanted is no new one, when no path to a new name
is wanted. -/
theorem isKept_of_isSeenFrom {wanted : String → Bool} (ht : t.WellFormed)
    (he : e ∈ t.entries.entries) (hseen : t.isSeenFrom path root e = true)
    (hwanted : wanted (pathBelow path root e) = true)
    (hmade : ∀ directory name, Path.IsName name → made name = true →
      wanted (Path.join directory name) = false) : isKept made e = true := by
  unfold FileTree.isSeenFrom at hseen
  simp only [Bool.and_eq_true, decide_eq_true_eq] at hseen
  obtain ⟨⟨⟨-, hlength⟩, hfile⟩, -⟩ := hseen
  unfold isKept
  rw [hfile, decide_eq_true rfl, Bool.true_and, Bool.not_eq_true']
  have hget := get?_of_mem_below he hlength
  obtain ⟨trail, entry⟩ := e
  rcases trail.eq_nil_or_concat with rfl | ⟨parent, name, rfl⟩
  · rfl
  · rw [List.concat_eq_append] at hlength hget hwanted ⊢
    rw [List.length_append, List.length_singleton, Nat.lt_succ_iff] at hlength
    have hname := ht.named (by rw [hget]; rfl) name (List.mem_append_right _ List.mem_cons_self)
    unfold pathBelow at hwanted
    rw [List.drop_append_of_le_length hlength, Path.extend, List.foldl_append] at hwanted
    rw [List.getLast?_concat, Option.any_some, Bool.eq_false_iff]
    intro hnew
    rw [List.foldl_cons, List.foldl_nil, hmade _ name hname hnew] at hwanted
    cases hwanted

/-- The path of a file that is seen leads to the file. -/
theorem destination_pathBelow (ht : t.WellFormed) (hfind : t.find path = .ok (root, .directory))
    (he : e ∈ t.entries.entries) (hseen : t.isSeenFrom path root e = true) :
    destination (pathBelow path root e) = e.1 := by
  unfold FileTree.isSeenFrom at hseen
  simp only [Bool.and_eq_true, decide_eq_true_eq, List.isPrefixOf_iff_prefix] at hseen
  obtain ⟨⟨⟨hroot, hlength⟩, -⟩, -⟩ := hseen
  have hnames : ∀ name ∈ e.1.drop root.length, Path.IsName name := fun name hname =>
    ht.named (by rw [get?_of_mem_below he hlength]; rfl) name (List.mem_of_mem_drop hname)
  rw [destination, pathBelow, leadFrom_extend [] hnames]
  show destination path ++ _ = _
  rw [← resolve_eq_ok (find_eq_ok.mp hfind).1, List.prefix_iff_eq_append.mp hroot]

/-- A walk sees the same wanted files as before, in the same order. -/
theorem Grown.filter_filesBelow {wanted : String → Bool} (h : Grown made t t') (ht : t.WellFormed)
    (hrules : ∀ name ∈ ruleNames, made name = false)
    (hfind : t.find path = .ok (root, .directory))
    (hmade : ∀ directory name, Path.IsName name → made name = true →
      wanted (Path.join directory name) = false) :
    ((t'.entries.entries.filter (t'.isSeenFrom path root)).map (pathBelow path root)).filter
        wanted =
      ((t.entries.entries.filter (t.isSeenFrom path root)).map (pathBelow path root)).filter
        wanted := by
  -- All that is wanted is kept.
  have hkept {t₁ : FileTree} (ht₁ : t₁.WellFormed) :
      (t₁.entries.entries.filter fun e =>
        (wanted ∘ pathBelow path root) e && t₁.isSeenFrom path root e) =
      (t₁.entries.entries.filter (isKept made)).filter fun e =>
        (wanted ∘ pathBelow path root) e && t₁.isSeenFrom path root e := by
    rw [List.filter_filter]
    refine List.filter_congr fun e he => ?_
    rw [Bool.eq_iff_iff, Bool.and_eq_true, Bool.and_eq_true, Bool.and_eq_true]
    refine ⟨fun hboth => ⟨hboth, ?_⟩, And.left⟩
    exact isKept_of_isSeenFrom ht₁ he hboth.2 hboth.1 hmade
  rw [List.filter_map, List.filter_map, List.filter_filter, List.filter_filter, hkept ht,
    hkept h.wellFormed, h.kept]
  refine congrArg _ (List.filter_congr fun e he => ?_)
  rw [h.isSeenFrom ht hrules hfind (List.mem_filter.mp he).1]

end FileTree

end BoundaryGen
