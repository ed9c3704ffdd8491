-- A generation that is written again. No run touches a file besides the units and the manifest, and
-- when all was in place, the next run finds it so and leaves the disk alone. A unit is compared
-- with its file when its turn comes, which shows when the units before it have made its path
-- passable.
import Mathlib
import BoundaryGen.Proofs.Files.Rooted
import BoundaryGen.Proofs.Generation.Writing

namespace BoundaryGen

open FileTree (ChangesAt Confined Preserves confined_iff exists_of_run_bind run_bind_of_ok run_liftM
  read_eq_ok)

variable {t t' : FileTree} {dataType out path text : String} {units before after : List WrapperUnit}
  {u : WrapperUnit} {outcomes : List (String × Bool)}

/-! ## Runs that stop half way -/

theorem preserves_writeIfChanged {I : FileTree → Prop}
    (h : Preserves I (Disk.writeWithin path text.toUTF8 :
      ExceptT IoError (StateM FileTree) Unit)) :
    Preserves I (writeIfChanged path text : ExceptT Error (StateM FileTree) Bool) :=
  fun t ht => Preserves.writeIfChanged h t ht

/-- Units keep what the writing of each of them keeps, also when one of them is refused. -/
theorem preserves_writeUnits {I : FileTree → Prop}
    (h : ∀ u ∈ units, Preserves I (Disk.writeWithin (u.path out) (Kotlin.source dataType u).toUTF8 :
      ExceptT IoError (StateM FileTree) Unit)) :
    Preserves I (writeUnits dataType out units : ExceptT Error (StateM FileTree) _) := by
  unfold writeUnits
  refine Preserves.mapM fun u hu => ?_
  exact (preserves_writeIfChanged (h u hu)).bind fun _ => .pure I _

theorem preserves_placeManifest {I : FileTree → Prop} {manifest : Manifest}
    (h : Preserves I (Disk.writeWithin path manifest.text.toUTF8 :
      ExceptT IoError (StateM FileTree) Unit)) (ht : I t) :
    I ((placeManifest manifest path : StateM FileTree _).run t).2 := by
  have hwritten : I (StateT.run (Disk.writeWithin path manifest.text.toUTF8 :
    ExceptT IoError (StateM FileTree) Unit).run t).2 := h t ht
  rcases hplace : (placeManifest manifest path : StateM FileTree _).run t with ⟨placed, t'⟩
  unfold placeManifest at hplace
  rw [StateT.run_bind, FileTree.run_read?] at hplace
  change StateT.run (if (t.read path).toOption = some manifest.text.toUTF8 then _ else _) t = _
    at hplace
  split at hplace
  · cases hplace
    exact ht
  · unfold Manifest.write at hplace
    rw [StateT.run_bind, StateT.run_bind] at hplace
    rcases hrun : StateT.run (Disk.writeWithin path manifest.text.toUTF8 :
      ExceptT IoError (StateM FileTree) Unit).run t with ⟨e | _, t₁⟩
    · rw [hrun] at hplace hwritten
      cases hplace
      exact hwritten
    · rw [hrun] at hplace hwritten
      cases hplace
      exact hwritten

/-- Units are written to their places only. -/
theorem confined_writeUnits (dataType out : String) (units : List WrapperUnit) :
    Confined {trail | ∃ u ∈ units, u.destination out = trail}
      (writeUnits dataType out units : ExceptT Error (StateM FileTree) _) := by
  refine confined_iff.mpr fun t => preserves_writeUnits fun u hu => ?_
  refine confined_iff.mp (fun t₁ => (Confined.writeWithin _ _ t₁).mono ?_) t
  exact Set.singleton_subset_iff.mpr ⟨u, hu, rfl⟩

theorem changesAt_placeManifest (manifest : Manifest) (path : String) (t : FileTree) :
    ChangesAt {FileTree.destination path} t
      ((placeManifest manifest path : StateM FileTree _).run t).2 :=
  preserves_placeManifest (confined_iff.mp (Confined.writeWithin path manifest.text.toUTF8) t)
    (.refl _ t)

/-! ## The turn of a unit -/

/-- Each unit is written on the tree that the units before it leave. -/
theorem exists_of_run_writeUnits_append
    (h : (writeUnits dataType out (before ++ u :: after) :
      ExceptT Error (StateM FileTree) _).run t = (.ok outcomes, t')) :
    ∃ first t₁ changed t₂ rest,
      (writeUnits dataType out before : ExceptT Error (StateM FileTree) _).run t =
        (.ok first, t₁) ∧
      (writeIfChanged (u.path out) (Kotlin.source dataType u) :
        ExceptT Error (StateM FileTree) Bool).run t₁ = (.ok changed, t₂) ∧
      (writeUnits dataType out after : ExceptT Error (StateM FileTree) _).run t₂ =
        (.ok rest, t') ∧
      outcomes = first ++ (u.path out, changed) :: rest := by
  unfold writeUnits at h
  rw [List.mapM_append] at h
  obtain ⟨first, t₁, hfirst, h⟩ := exists_of_run_bind h
  obtain ⟨behind, t₂, hbehind, hreturn⟩ := exists_of_run_bind h
  cases hreturn
  rw [List.mapM_cons] at hbehind
  obtain ⟨outcome, t₃, houtcome, hbehind⟩ := exists_of_run_bind hbehind
  obtain ⟨changed, t₄, hchanged, hreturn⟩ := exists_of_run_bind houtcome
  cases hreturn
  obtain ⟨rest, t₅, hrest, hreturn⟩ := exists_of_run_bind hbehind
  cases hreturn
  exact ⟨first, t₁, changed, t₃, rest, hfirst, hchanged, hrest, rfl⟩

/-- Units that were written are told of under their paths, in their order. -/
theorem paths_of_run_writeUnits
    (h : (writeUnits dataType out units : ExceptT Error (StateM FileTree) _).run t =
      (.ok outcomes, t')) :
    outcomes.map (·.1) = units.map (·.path out) := by
  induction units generalizing t outcomes with
  | nil =>
    cases h
    rfl
  | cons u units ih =>
    have h : (writeUnits dataType out ([] ++ u :: units) :
        ExceptT Error (StateM FileTree) _).run t = (.ok outcomes, t') := h
    obtain ⟨first, t₁, changed, t₂, rest, hfirst, -, hrest, rfl⟩ :=
      exists_of_run_writeUnits_append h
    cases hfirst
    exact congrArg (u.path out :: ·) (ih hrest)

/-- A unit is told to be written when its text was not read on its turn. -/
theorem mem_written_iff (hpaths : ((before ++ u :: after).map (·.path out)).Nodup)
    (h : (writeUnits dataType out (before ++ u :: after) :
      ExceptT Error (StateM FileTree) _).run t = (.ok outcomes, t')) :
    ∃ first t₁,
      (writeUnits dataType out before : ExceptT Error (StateM FileTree) _).run t =
        (.ok first, t₁) ∧
      (u.path out ∈ (outcomes.filter (·.2)).map (·.1) ↔
        t₁.read (u.path out) ≠ .ok (Kotlin.source dataType u).toUTF8) := by
  have hall := paths_of_run_writeUnits h
  obtain ⟨first, t₁, changed, t₂, rest, hfirst, hwrite, hrest, rfl⟩ :=
    exists_of_run_writeUnits_append h
  refine ⟨first, t₁, hfirst, ?_⟩
  obtain ⟨-, -, hchanged⟩ := run_writeIfChanged hwrite
  rw [← hchanged]
  -- No other unit is told of under this path.
  rw [← hall] at hpaths
  have hother : ∀ b, (u.path out, b) ∈ first ++ (u.path out, changed) :: rest → b = changed := by
    intro b hb
    have heq := List.inj_on_of_nodup_map hpaths hb
      (List.mem_append_right first List.mem_cons_self) rfl
    exact (Prod.mk.inj heq).2
  rw [List.mem_map]
  constructor
  · rintro ⟨⟨p, b⟩, hmem, rfl⟩
    obtain ⟨hmem, hb⟩ := List.mem_filter.mp hmem
    rw [← hother b hmem]
    exact hb
  · intro htrue
    exact ⟨(u.path out, changed),
      List.mem_filter.mpr ⟨List.mem_append_right first List.mem_cons_self, htrue⟩, rfl⟩

/-! ## Files in place -/

theorem run_writeIfChanged_of_read (h : t.read path = .ok text.toUTF8) :
    (writeIfChanged path text : ExceptT Error (StateM FileTree) Bool).run t = (.ok false, t) :=
  congrArg (fun r : Except IoError Bool × FileTree => (r.1.mapError Error.io, r.2))
    (FileTree.run_writeIfChanged_of_read h)

/-- Units that are in place are left there. -/
theorem run_writeUnits_of_read
    (h : ∀ u ∈ units, t.read (u.path out) = .ok (Kotlin.source dataType u).toUTF8) :
    (writeUnits dataType out units : ExceptT Error (StateM FileTree) _).run t =
      (.ok (units.map fun u => (u.path out, false)), t) := by
  unfold writeUnits
  induction units with
  | nil => rfl
  | cons u units ih =>
    have hfirst := run_writeIfChanged_of_read (h u List.mem_cons_self)
    have hrest := ih fun v hv => h v (List.mem_cons_of_mem u hv)
    rw [List.mapM_cons, bind_assoc, run_bind_of_ok hfirst, pure_bind, run_bind_of_ok hrest]
    rfl

theorem run_placeManifest_of_read {manifest : Manifest}
    (h : t.read path = .ok manifest.text.toUTF8) :
    (placeManifest manifest path : StateM FileTree _).run t = (some path, t) := by
  unfold placeManifest
  rw [StateT.run_bind, FileTree.run_read?]
  change StateT.run (if (t.read path).toOption = some manifest.text.toUTF8 then _ else _) t = _
  rw [if_pos (FileTree.toOption_eq_some.mpr h)]
  rfl

/-- The path of a unit ends in a name. -/
theorem WrapperUnit.exists_pieces_path (u : WrapperUnit) (out : String) :
    ∃ around name, Path.pieces (u.path out) = around ++ [name] ∧ Path.IsName name := by
  obtain ⟨before, hbefore⟩ := Path.exists_join_eq (Path.ofParts u.packageParts) u.file
  obtain ⟨root, hroot⟩ := Path.exists_join_eq (Path.join out "kotlin") (Kotlin.relativePath u)
  have hpath : u.path out = root ++ before ++ u.fileName ++ ".kt" := by
    have hending : "." ++ Kotlin.fileExtension = ".kt" := by decide
    rw [WrapperUnit.path, hroot, relativePath_eq, hbefore, file]
    simp only [String.append_assoc, hending]
  have hslash : '/' ∉ ".kt".toList := by decide
  obtain ⟨around, last, hpieces⟩ :=
    Path.exists_pieces_append hslash (root ++ before ++ u.fileName)
  rw [← hpath] at hpieces
  refine ⟨around, last ++ ".kt", hpieces, ?_⟩
  have hlength : 3 ≤ (last ++ ".kt").toList.length := by
    rw [String.toList_append, List.length_append]
    exact Nat.le_add_left 3 _
  have hne {text : String} (h : text.toList.length < 3) : last ++ ".kt" ≠ text := by
    intro heq
    rw [heq] at hlength
    exact absurd hlength (Nat.not_le.mpr h)
  exact {
    noSlash := Path.noSlash_of_mem_pieces (hpieces ▸ List.mem_append_right _ List.mem_cons_self)
    nonempty := hne (by decide)
    noDot := hne (by decide)
    noDots := hne (by decide) }

/-! ## Generations -/

namespace Generation

variable {g : Generation} {config : Config} {summary : WriteSummary}
  {result : Except Error WriteSummary}

/-- Where the units of a generation go. -/
def unitPlaces (g : Generation) (out : String) : Set Trail :=
  {trail | ∃ u ∈ g.units, u.destination out = trail}

/-- Where the manifest of a generation goes. -/
def manifestPlace (config : Config) (out : String) : Trail :=
  FileTree.destination (config.manifestPath out)

/-- The manifest and the units go to places of their own. -/
def Apart (g : Generation) (config : Config) (out : String) : Prop :=
  (manifestPlace config out :: g.units.map (·.destination out)).Nodup

instance : Decidable (g.Apart config out) := inferInstanceAs (Decidable (List.Nodup _))

namespace Apart

theorem manifestPlace_notMem (h : g.Apart config out) :
    manifestPlace config out ∉ g.unitPlaces out := by
  rintro ⟨u, hu, heq⟩
  exact (List.nodup_cons.mp h).1 (List.mem_map.mpr ⟨u, hu, heq⟩)

theorem nodup_paths (h : g.Apart config out) : (g.units.map (·.path out)).Nodup := by
  have hdestinations := (List.nodup_cons.mp h).2
  have hmap : g.units.map (·.destination out) =
      (g.units.map (·.path out)).map FileTree.destination := by
    rw [List.map_map]
    exact List.map_congr_left fun u _ => by rw [WrapperUnit.destination, Function.comp_apply]
  rw [hmap] at hdestinations
  exact hdestinations.of_map

theorem unitsAgree (h : g.Apart config out) : g.UnitsAgree config out := by
  intro u hu v hv heq
  rw [List.inj_on_of_nodup_map (List.nodup_cons.mp h).2 hu hv heq]

theorem manifestAgrees (h : g.Apart config out) : g.ManifestAgrees config out := by
  intro u hu heq
  exact absurd ⟨u, hu, heq⟩ h.manifestPlace_notMem

end Apart

/-- A generation keeps what the writing of each of its files keeps. -/
theorem preserves_write {I : FileTree → Prop}
    (hunits : ∀ u ∈ g.units, Preserves I
      (Disk.writeWithin (u.path out) (Kotlin.source config.retrieverDataType u).toUTF8 :
        ExceptT IoError (StateM FileTree) Unit))
    (hmanifest : Preserves I (Disk.writeWithin (config.manifestPath out) g.manifest.text.toUTF8 :
      ExceptT IoError (StateM FileTree) Unit)) :
    Preserves I (g.write config out : ExceptT Error (StateM FileTree) WriteSummary) := by
  have hplace : Preserves I (liftM (placeManifest g.manifest (config.manifestPath out) :
      StateM FileTree _) : ExceptT Error (StateM FileTree) _) :=
    .lift fun _ => preserves_placeManifest hmanifest
  exact (preserves_writeUnits hunits).bind fun _ => hplace.bind fun _ => .pure I _

/-- A generation that is not written in the end stopped at its units. -/
theorem run_writeUnits_of_error {e : Error}
    (h : (g.write config out : ExceptT Error (StateM FileTree) _).run t = (.error e, t')) :
    (writeUnits config.retrieverDataType out g.units : ExceptT Error (StateM FileTree) _).run t =
      (.error e, t') := by
  rcases hrun : (writeUnits config.retrieverDataType out g.units :
    ExceptT Error (StateM FileTree) _).run t with ⟨e' | outcomes, t₁⟩
  · unfold Generation.write at h
    rw [FileTree.run_bind_of_error hrun] at h
    cases h
    rfl
  · obtain ⟨summary, t₂, hwritten, -⟩ := run_write_of_writeUnits hrun
    rw [h] at hwritten
    cases hwritten

/-- A generation that is in place is left there. -/
theorem run_write_of_read (hkeeps : g.Keeps config out t)
    (hmanifest : t.read (config.manifestPath out) = .ok g.manifest.text.toUTF8) :
    (g.write config out : ExceptT Error (StateM FileTree) _).run t =
      (.ok {
        written := []
        unchanged := g.units.length
        manifest := some (config.manifestPath out) }, t) := by
  unfold Generation.write
  rw [run_bind_of_ok (run_writeUnits_of_read hkeeps),
    run_bind_of_ok (run_liftM (run_placeManifest_of_read hmanifest)), List.filter_map,
    List.filter_map, List.length_map]
  have hnone : g.units.filter ((·.2) ∘ fun u => (u.path out, false)) = [] :=
    List.filter_eq_nil_iff.mpr fun _ _ => Bool.false_ne_true
  have hall : g.units.filter ((!·.2) ∘ fun u => (u.path out, false)) = g.units :=
    List.filter_eq_self.mpr fun _ _ => rfl
  rw [hnone, hall]
  rfl

/-- The units of a generation do not change where another unit goes. -/
theorem Apart.notMem_places (h : g.Apart config out) (hunits : g.units = before ++ u :: after) :
    u.destination out ∉ {trail | ∃ v ∈ before, v.destination out = trail} := by
  have hnodup := (List.nodup_cons.mp h).2
  rw [hunits, List.map_append, List.map_cons] at hnodup
  rintro ⟨v, hv, heq⟩
  refine List.disjoint_of_nodup_append hnodup (List.mem_map.mpr ⟨v, hv, heq⟩) ?_
  exact List.mem_cons_self

/-- A path that leads to its place before the run, or that never goes back: what is read of it on
the turn of its unit is what stands there before the run. -/
theorem Apart.read_iff (h : g.Apart config out) (hunits : g.units = before ++ u :: after)
    {first : List (String × Bool)} {t₁ : FileTree}
    (hfirst : (writeUnits config.retrieverDataType out before :
      ExceptT Error (StateM FileTree) _).run t = (.ok first, t₁))
    (hpath : t.resolve (u.path out) = .ok (u.destination out) ∨
      t.Rooted ∧ ".." ∉ Path.pieces (u.path out)) (content : ByteArray) :
    t₁.read (u.path out) = .ok content ↔ t.get? (u.destination out) = some (.file content) := by
  obtain ⟨hchanges, -⟩ := run_writeUnits hfirst
  have hfile := hchanges.file (h.notMem_places hunits) content
  rw [read_eq_ok]
  constructor
  · rintro ⟨-, hget⟩
    exact hfile.mp hget
  · intro hget
    refine ⟨hchanges.resolve ?_, hfile.mpr hget⟩
    rcases hpath with hresolve | ⟨hrooted, hdots⟩
    · exact hresolve
    · obtain ⟨around, name, hpieces, hname⟩ := u.exists_pieces_path out
      refine hrooted.resolve hpieces hname ?_ ?_
      · intro hmem
        rw [hpieces] at hdots
        exact hdots (List.mem_append_left _ hmem)
      · rw [← WrapperUnit.destination, hget]
        rfl

/-- What a run did that wrote a generation on a tree. -/
structure Wrote (g : Generation) (config : Config) (out : String) (t t' : FileTree)
    (summary : WriteSummary) : Prop where
  /-- Every unit is found whole. -/
  kept : g.Keeps config out t'
  /-- When the manifest is in place too, another run finds all in place. -/
  again : ∀ path, summary.manifest = some path →
    (g.write config out : ExceptT Error (StateM FileTree) _).run t' =
      (.ok { written := [], unchanged := g.units.length, manifest := some path }, t')
  /-- A unit is listed as written when its text was not read at its path on its turn. -/
  listed : ∀ before u after, g.units = before ++ u :: after → ∃ outcomes t₁,
    (writeUnits config.retrieverDataType out before : ExceptT Error (StateM FileTree) _).run t =
      (.ok outcomes, t₁) ∧
    (u.path out ∈ summary.written ↔
      t₁.read (u.path out) ≠ .ok (Kotlin.source config.retrieverDataType u).toUTF8)
  /-- A path that leads to its place from the start, or that never goes back, is listed when the
  text did not stand there before the run. -/
  listedFromStart : ∀ u ∈ g.units,
    t.resolve (u.path out) = .ok (u.destination out) ∨
      t.Rooted ∧ ".." ∉ Path.pieces (u.path out) →
    (u.path out ∈ summary.written ↔ t.get? (u.destination out) ≠
      some (.file (Kotlin.source config.retrieverDataType u).toUTF8))

/-- A run that wrote a generation to places of their own did as it tells. -/
theorem Apart.wrote (hapart : g.Apart config out)
    (h : (g.write config out : ExceptT Error (StateM FileTree) _).run t = (.ok summary, t')) :
    g.Wrote config out t t' summary := by
  obtain ⟨outcomes, t₁, hunits, hplaced⟩ := exists_of_run_write h
  obtain ⟨summary', t₂, hsummary, hwritten⟩ := run_write_of_writeUnits (g := g) hunits
  obtain rfl : summary = summary' := by
    rw [h] at hsummary
    cases hsummary
    rfl
  have hkept : g.Keeps config out t' :=
    (keeps_iff h).mpr ⟨hapart.unitsAgree, fun _ => hapart.manifestAgrees⟩
  have hlisted : ∀ before u after, g.units = before ++ u :: after → ∃ outcomes t₁,
      (writeUnits config.retrieverDataType out before : ExceptT Error (StateM FileTree) _).run t =
        (.ok outcomes, t₁) ∧
      (u.path out ∈ summary.written ↔
        t₁.read (u.path out) ≠ .ok (Kotlin.source config.retrieverDataType u).toUTF8) := by
    intro before u after hsplit
    rw [hwritten]
    rw [hsplit] at hunits
    exact mem_written_iff (hsplit ▸ hapart.nodup_paths) hunits
  refine ⟨hkept, ?_, hlisted, ?_⟩
  · intro path hpath
    rcases run_placeManifest hplaced with ⟨hsome, -, hread⟩ | ⟨hnone, -⟩
    · rw [hsome, Option.some.injEq] at hpath
      rw [← hpath]
      exact run_write_of_read hkept hread
    · rw [hnone] at hpath
      cases hpath
  · intro u hu hpath
    obtain ⟨before, after, hsplit⟩ := List.append_of_mem hu
    obtain ⟨first, t₁, hfirst, hiff⟩ := hlisted before u after hsplit
    rw [hiff]
    exact not_congr (hapart.read_iff hsplit hfirst hpath _)

/-! ## The law of runs -/

/-- A run over a generation whose files go to places of their own changes these files only, and not
the manifest when it fails. When it does not fail, what it tells of the units is right, and another
run changes nothing. -/
theorem a_generation_is_written_to_its_own_places (hapart : g.Apart config out)
    (h : (g.write config out : ExceptT Error (StateM FileTree) _).run t = (result, t')) :
    ChangesAt (insert (manifestPlace config out) (g.unitPlaces out)) t t' ∧
    (∀ e, result = .error e → ∀ content,
      t'.get? (manifestPlace config out) = some (.file content) ↔
        t.get? (manifestPlace config out) = some (.file content)) ∧
    ∀ summary, result = .ok summary → g.Wrote config out t t' summary := by
  cases result with
  | error e =>
    have hchanges : ChangesAt (g.unitPlaces out) t t' := by
      have hconfined := confined_writeUnits config.retrieverDataType out g.units t
      rwa [run_writeUnits_of_error h] at hconfined
    refine ⟨hchanges.mono (Set.subset_insert _ _), ?_, nofun⟩
    intro _ _
    exact hchanges.file hapart.manifestPlace_notMem
  | ok summary =>
    refine ⟨?_, nofun, ?_⟩
    · obtain ⟨outcomes, t₁, hunits, hplaced⟩ := exists_of_run_write h
      have hchanges := changesAt_placeManifest g.manifest (config.manifestPath out) t₁
      rw [hplaced] at hchanges
      refine ((run_writeUnits hunits).1.mono (Set.subset_insert _ _)).trans (hchanges.mono ?_)
      exact Set.singleton_subset_iff.mpr (Set.mem_insert _ _)
    · rintro _ ⟨⟩
      exact hapart.wrote h

end Generation

namespace Snapshot

/-- The item and the line go to places of their own. A second run writes neither. -/
theorem the_item_and_the_line_are_written_once : ∃ s, ofFiles [stockFile "Item" "Line"] = .ok s ∧
    (s.generate {}).Apart {} "out" ∧
    ∃ summary t', ((s.generate {}).write {} "out" : ExceptT Error (StateM FileTree) _).run {} =
        (.ok summary, t') ∧
      summary.written =
        ["out/kotlin/app/_kirok/ItemKirok.kt", "out/kotlin/app/_kirok/LineKirok.kt"] ∧
      ((s.generate {}).write {} "out" : ExceptT Error (StateM FileTree) _).run t' = (.ok {
        written := []
        unchanged := 2
        manifest := some "out/resources/kirok_model.json" }, t') := by
  obtain ⟨s, hs, hapart, hlength, hwritten⟩ := exists_ofFiles_singleton (stockFile "Item" "Line")
    (fun s => (s.generate {}).Apart {} "out" ∧ (s.generate {}).units.length = 2 ∧
      (((s.generate {}).write {} "out" : ExceptT Error (StateM FileTree) _).run {}).1 = .ok {
        written := ["out/kotlin/app/_kirok/ItemKirok.kt", "out/kotlin/app/_kirok/LineKirok.kt"]
        unchanged := 0
        manifest := some "out/resources/kirok_model.json" }) (by decide +kernel)
  obtain ⟨t', hrun⟩ := exists_of_fst_eq hwritten
  obtain ⟨-, -, hok⟩ := Generation.a_generation_is_written_to_its_own_places hapart hrun
  refine ⟨s, hs, hapart, _, t', hrun, rfl, ?_⟩
  rw [(hok _ rfl).again _ rfl, hlength]

/-! ## A path that goes back -/

/-- The unit of a model of the class `Cart`. -/
def lineUnit : WrapperUnit where
  model := "app.Cart.Line"
  modelName := "Line"
  modelType := { name := "app.Cart.Line" }
  package := "app._kirok"
  fileName := "LineKirok"
  saveFunction := "saveLine"
  loadFunction := "loadLine"
  init := none
  intents := []

/-- A tree with both units below `p`. -/
def stockTree : FileTree :=
  let around : List Trail :=
    [["p"], ["p", "kotlin"], ["p", "kotlin", "app"], ["p", "kotlin", "app", "_kirok"]]
  let files : List WrapperUnit := [itemUnit "Shop", lineUnit]
  files.foldl (fun t u => t.put (u.destination "p") (.file (plainSource u).toUTF8))
    (around.foldl (fun t trail => t.put trail .directory) {})

theorem rooted_stockTree : stockTree.Rooted := by
  unfold stockTree
  simp only [List.foldl_cons, List.foldl_nil]
  exact FileTree.rooted_empty
    |>.put (by decide) (by decide) (.inl rfl) |>.put (by decide) (by decide) (.inl rfl)
    |>.put (by decide) (by decide) (.inl rfl) |>.put (by decide) (by decide) (.inl rfl)
    |>.put (by decide) (by decide +kernel) (.inr (by decide +kernel))
    |>.put (by decide) (by decide +kernel) (.inr (by decide +kernel))

/-- Both units stand below the place of `x/../p`, which is that of `p`. -/
theorem get?_stockTree : ∀ u ∈ [itemUnit "Shop", lineUnit], u.wrappers = [] ∧
    stockTree.get? (u.destination "x/../p") = some (.file (plainSource u).toUTF8) := by
  have hitem : (itemUnit "Shop").destination "x/../p" = (itemUnit "Shop").destination "p" := by
    decide +kernel
  have hline : lineUnit.destination "x/../p" = lineUnit.destination "p" := by decide +kernel
  have hnil (u : WrapperUnit) (hu : u ∈ [itemUnit "Shop", lineUnit]) : u.destination "p" ≠ [] := by
    revert u
    decide +kernel
  have hother : (itemUnit "Shop").destination "p" ≠ lineUnit.destination "p" := by decide +kernel
  unfold stockTree
  simp only [List.foldl_cons, List.foldl_nil, List.forall_mem_cons, List.not_mem_nil,
    IsEmpty.forall_iff, implies_true, and_true]
  rw [hitem, hline, FileTree.get?_put _ _ _ _ (hnil _ (by simp)), if_neg hother,
    FileTree.get?_put _ _ _ _ (hnil _ (by simp)), if_pos rfl,
    FileTree.get?_put _ _ _ _ (hnil _ (by simp)), if_pos rfl]
  exact ⟨⟨rfl, rfl⟩, rfl, rfl⟩

/-- The directory `x` is made for the first unit, and then the path of the second one leads on. -/
theorem writeIfChanged_stockTree (dataType : String) : ∃ t₁,
    (writeIfChanged ((itemUnit "Shop").path "x/../p") (Kotlin.source dataType (itemUnit "Shop")) :
      ExceptT Error (StateM FileTree) Bool).run stockTree = (.ok true, t₁) ∧
    t₁.resolve (lineUnit.path "x/../p") = .ok (lineUnit.destination "x/../p") := by
  rw [source_of_wrappers_eq_nil rfl]
  have hrun : ∃ t₁, (writeIfChanged ((itemUnit "Shop").path "x/../p")
      (plainSource (itemUnit "Shop")) : ExceptT Error (StateM FileTree) Bool).run stockTree =
        (.ok true, t₁) := exists_of_fst_eq (by decide +kernel)
  obtain ⟨t₁, hrun⟩ := hrun
  refine ⟨t₁, hrun, ?_⟩
  have hresolve : ((writeIfChanged ((itemUnit "Shop").path "x/../p")
      (plainSource (itemUnit "Shop")) : ExceptT Error (StateM FileTree) Bool).run
        stockTree).2.resolve (lineUnit.path "x/../p") =
          .ok (lineUnit.destination "x/../p") := by
    decide +kernel
  rwa [hrun] at hresolve

/-- The first unit is written again, and the second one is found in its place. -/
theorem writeUnits_stockTree (dataType : String) : ∃ t',
    (writeUnits dataType "x/../p" [itemUnit "Shop", lineUnit] :
        ExceptT Error (StateM FileTree) _).run stockTree =
      (.ok [("x/../p/kotlin/app/_kirok/ItemKirok.kt", true),
        ("x/../p/kotlin/app/_kirok/LineKirok.kt", false)], t') := by
  obtain ⟨t₁, hfirst, hresolve⟩ := writeIfChanged_stockTree dataType
  obtain ⟨hplain, hget⟩ := get?_stockTree lineUnit (by simp)
  have hother : lineUnit.destination "x/../p" ∉
      ({(itemUnit "Shop").destination "x/../p"} : Set Trail) := by
    rw [Set.mem_singleton_iff]
    decide +kernel
  have hread : t₁.read (lineUnit.path "x/../p") =
      .ok (Kotlin.source dataType lineUnit).toUTF8 := by
    rw [source_of_wrappers_eq_nil hplain]
    refine read_eq_ok.mpr ⟨hresolve, ?_⟩
    exact ((run_writeIfChanged hfirst).1.file hother _).mpr hget
  have hunits : ∀ u ∈ [lineUnit],
      t₁.read (u.path "x/../p") = .ok (Kotlin.source dataType u).toUTF8 := by
    intro u hu
    rw [List.mem_singleton.mp hu]
    exact hread
  have hrest := run_writeUnits_of_read hunits
  unfold writeUnits at hrest ⊢
  rw [List.mapM_cons, bind_assoc, run_bind_of_ok hfirst, pure_bind, run_bind_of_ok hrest]
  exact ⟨t₁, rfl⟩

/-- Both units stand in their places with their texts, and neither is found on its path, which goes
back from a directory that is not there. The first one is listed, and the second one is not. -/
theorem the_item_is_listed_though_it_stands_there : ∃ s,
    ofFiles [stockFile "Item" "Line"] = .ok s ∧ (s.generate {}).Apart {} "x/../p" ∧
    stockTree.Rooted ∧
    (∀ u ∈ (s.generate {}).units,
      stockTree.get? (u.destination "x/../p") =
        some (.file (Kotlin.source ({} : Config).retrieverDataType u).toUTF8) ∧
      stockTree.read (u.path "x/../p") = .error .notFound) ∧
    ∃ summary t',
      ((s.generate {}).write {} "x/../p" : ExceptT Error (StateM FileTree) _).run stockTree =
        (.ok summary, t') ∧
      summary.written = ["x/../p/kotlin/app/_kirok/ItemKirok.kt"] := by
  obtain ⟨s, hs, hunits, hapart⟩ := exists_ofFiles_singleton (stockFile "Item" "Line")
    (fun s => (s.generate {}).units = [itemUnit "Shop", lineUnit] ∧
      (s.generate {}).Apart {} "x/../p") (by decide +kernel)
  obtain ⟨t₁, hwritten⟩ := writeUnits_stockTree ({} : Config).retrieverDataType
  rw [← hunits] at hwritten
  obtain ⟨summary, t', hrun, hsummary⟩ := Generation.run_write_of_writeUnits hwritten
  have hnotFound : ∀ u ∈ [itemUnit "Shop", lineUnit],
      stockTree.read (u.path "x/../p") = .error .notFound := by decide +kernel
  refine ⟨s, hs, hapart, rooted_stockTree, ?_, summary, t', hrun, hsummary⟩
  intro u hu
  rw [hunits] at hu
  obtain ⟨hplain, hget⟩ := get?_stockTree u hu
  rw [source_of_wrappers_eq_nil hplain]
  exact ⟨hget, hnotFound u hu⟩

end Snapshot

end BoundaryGen
