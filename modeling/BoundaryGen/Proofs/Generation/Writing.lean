-- What stands on a tree when the files of a generation have been written. Units that go to one
-- place overwrite each other in silence, so that only the last of them is found there.
import Mathlib
import BoundaryGen.Proofs.Files.Changes
import BoundaryGen.Proofs.Generation.Accounting
import BoundaryGen.Proofs.Snapshot.Listing
import BoundaryGen.Proofs.Wrapper.Place
import BoundaryGen.Source.Build

namespace BoundaryGen

open FileTree (ChangesAt exists_of_run_bind run_bind_of_ok read_eq_ok read_of_destination_eq)

variable {t t' : FileTree} {dataType out : String} {units : List WrapperUnit}

theorem exists_of_fst_eq {α β : Type} {pair : α × β} {a : α} (h : pair.1 = a) :
    ∃ b, pair = (a, b) :=
  ⟨pair.2, by rw [← h]⟩

/-! ## Units -/

/-- A unit that is written is read back, and no other file changes. It counts as written when it was
not read before. -/
theorem run_writeIfChanged {path text : String} {changed : Bool}
    (h : (writeIfChanged path text : ExceptT Error (StateM FileTree) Bool).run t =
      (.ok changed, t')) :
    ChangesAt {FileTree.destination path} t t' ∧ t'.read path = .ok text.toUTF8 ∧
      (changed = true ↔ t.read path ≠ .ok text.toUTF8) := by
  have h : (fun r : Except IoError Bool × FileTree => (r.1.mapError Error.io, r.2))
      ((Disk.writeIfChanged path text : ExceptT IoError (StateM FileTree) Bool).run t) =
        (.ok changed, t') := h
  rcases hrun : (Disk.writeIfChanged path text : ExceptT IoError (StateM FileTree) Bool).run t with
    ⟨e | changed', t₁⟩
  · rw [hrun] at h
    cases h
  · rw [hrun] at h
    cases h
    exact FileTree.run_writeIfChanged hrun

/-- When units were written, each path holds its unit or one that went to the same place. -/
theorem run_writeUnits {outcomes : List (String × Bool)}
    (h : (writeUnits dataType out units : ExceptT Error (StateM FileTree) _).run t =
      (.ok outcomes, t')) :
    ChangesAt {trail | ∃ u ∈ units, u.destination out = trail} t t' ∧
      ∀ u ∈ units, ∃ v ∈ units, v.destination out = u.destination out ∧
        t'.read (u.path out) = .ok (Kotlin.source dataType v).toUTF8 := by
  unfold writeUnits at h
  induction units generalizing t outcomes with
  | nil =>
    cases h
    exact ⟨.refl _ _, by simp⟩
  | cons u units ih =>
    rw [List.mapM_cons] at h
    obtain ⟨outcome, t₁, hfirst, h⟩ := exists_of_run_bind h
    obtain ⟨changed, t₂, hwrite, hreturn⟩ := exists_of_run_bind hfirst
    cases hreturn
    obtain ⟨rest, t₃, hrest, hreturn⟩ := exists_of_run_bind h
    cases hreturn
    obtain ⟨hchanges, hread, -⟩ := run_writeIfChanged hwrite
    obtain ⟨hchanges', hreads⟩ := ih hrest
    constructor
    · refine (hchanges.mono (Set.singleton_subset_iff.mpr ?_)).trans (hchanges'.mono ?_)
      · exact ⟨u, List.mem_cons_self, rfl⟩
      · rintro _ ⟨v, hv, rfl⟩
        exact ⟨v, List.mem_cons_of_mem u hv, rfl⟩
    · intro v hv
      rcases List.mem_cons.mp hv with rfl | hv
      · -- The first unit stays unless a later one goes to its place.
        by_cases hlater : ∃ w ∈ units, w.destination out = v.destination out
        · obtain ⟨w, hw, heq⟩ := hlater
          obtain ⟨x, hx, heqx, hreadw⟩ := hreads w hw
          refine ⟨x, List.mem_cons_of_mem v hx, heqx.trans heq, ?_⟩
          exact read_of_destination_eq hreadw (hchanges'.resolve (read_eq_ok.mp hread).1) heq.symm
        · exact ⟨v, List.mem_cons_self, rfl, hchanges'.read hlater hread⟩
      · obtain ⟨x, hx, heqx, hreadv⟩ := hreads v hv
        exact ⟨x, List.mem_cons_of_mem u hx, heqx, hreadv⟩

/-! ## The manifest -/

/-- A manifest that is written is read back; one that is not changes no file. -/
theorem run_write {manifest : Manifest} {path : String} {done : Bool}
    (h : (manifest.write path : StateM FileTree Bool).run t = (done, t')) :
    (done = true ∧ ChangesAt {FileTree.destination path} t t' ∧
        t'.read path = .ok manifest.text.toUTF8) ∨
      (done = false ∧ ChangesAt ∅ t t') := by
  unfold Manifest.write at h
  rw [StateT.run_bind] at h
  rcases hrun : StateT.run (Disk.writeWithin path manifest.text.toUTF8 :
    ExceptT IoError (StateM FileTree) Unit).run t with ⟨e | _, t₁⟩
  · rw [hrun] at h
    cases h
    rcases FileTree.writeWithin_cases hrun with ⟨e, -, hchanges⟩ | ⟨he, -⟩
    · exact Or.inr ⟨rfl, hchanges⟩
    · cases he
  · rw [hrun] at h
    cases h
    rcases FileTree.writeWithin_cases hrun with ⟨e, he, -⟩ | ⟨-, hchanges, hread⟩
    · cases he
    · exact Or.inl ⟨rfl, hchanges, hread⟩

/-- A manifest that is there in the end is read back; one that is not changes no file. -/
theorem run_placeManifest {manifest : Manifest} {path : String} {placed : Option String}
    (h : (placeManifest manifest path : StateM FileTree (Option String)).run t = (placed, t')) :
    (placed = some path ∧ ChangesAt {FileTree.destination path} t t' ∧
        t'.read path = .ok manifest.text.toUTF8) ∨
      (placed = none ∧ ChangesAt ∅ t t') := by
  unfold placeManifest at h
  rw [StateT.run_bind, FileTree.run_read?] at h
  change StateT.run (if (t.read path).toOption = some manifest.text.toUTF8 then _ else _) t = _ at h
  by_cases hsame : (t.read path).toOption = some manifest.text.toUTF8
  · rw [if_pos hsame] at h
    cases h
    exact Or.inl ⟨rfl, .refl _ t, FileTree.read_of_toOption hsame⟩
  · rw [if_neg hsame, StateT.run_bind] at h
    rcases hrun : StateT.run (manifest.write path : StateM FileTree Bool) t with ⟨done, t₁⟩
    rw [hrun] at h
    rcases run_write hrun with ⟨rfl, hchanges, hread⟩ | ⟨rfl, hchanges⟩
    · cases h
      exact Or.inl ⟨rfl, hchanges, hread⟩
    · cases h
      exact Or.inr ⟨rfl, hchanges⟩

/-! ## Generations -/

namespace Generation

variable {g : Generation} {config : Config} {summary : WriteSummary}

/-- Every unit is found whole at its path. -/
def Keeps (g : Generation) (config : Config) (out : String) (t : FileTree) : Prop :=
  ∀ u ∈ g.units, t.read (u.path out) = .ok (Kotlin.source config.retrieverDataType u).toUTF8

/-- Units that go to one place have one text. -/
def UnitsAgree (g : Generation) (config : Config) (out : String) : Prop :=
  ∀ u ∈ g.units, ∀ v ∈ g.units, u.destination out = v.destination out →
    Kotlin.source config.retrieverDataType u = Kotlin.source config.retrieverDataType v

/-- A unit that goes to the place of the manifest has its text. -/
def ManifestAgrees (g : Generation) (config : Config) (out : String) : Prop :=
  ∀ u ∈ g.units, u.destination out = FileTree.destination (config.manifestPath out) →
    Kotlin.source config.retrieverDataType u = g.manifest.text

/-- The units are written first, and then the manifest is placed. -/
theorem exists_of_run_write
    (h : (g.write config out : ExceptT Error (StateM FileTree) _).run t = (.ok summary, t')) :
    ∃ outcomes t₁,
      (writeUnits config.retrieverDataType out g.units : ExceptT Error (StateM FileTree) _).run t =
        (.ok outcomes, t₁) ∧
      (placeManifest g.manifest (config.manifestPath out) : StateM FileTree _).run t₁ =
        (summary.manifest, t') := by
  unfold Generation.write at h
  obtain ⟨outcomes, t₁, hunits, h⟩ := exists_of_run_bind h
  obtain ⟨placed, t₂, hplaced, hreturn⟩ := exists_of_run_bind h
  cases hreturn
  refine ⟨outcomes, t₁, hunits, ?_⟩
  cases hplaced
  rfl

/-- A generation is written when its units are; the manifest does not stop it. -/
theorem run_write_of_writeUnits {outcomes : List (String × Bool)} {t₁ : FileTree}
    (h : (writeUnits config.retrieverDataType out g.units :
      ExceptT Error (StateM FileTree) _).run t = (.ok outcomes, t₁)) :
    ∃ summary t',
      (g.write config out : ExceptT Error (StateM FileTree) _).run t = (.ok summary, t') ∧
      summary.written = (outcomes.filter (·.2)).map (·.1) := by
  rcases hplaced : (placeManifest g.manifest (config.manifestPath out) : StateM FileTree _).run t₁
    with ⟨placed, t'⟩
  refine ⟨{
    written := (outcomes.filter (·.2)).map (·.1)
    unchanged := (outcomes.filter (!·.2)).length
    manifest := placed }, t', ?_, rfl⟩
  unfold Generation.write
  rw [run_bind_of_ok h]
  rw [run_bind_of_ok (FileTree.run_liftM hplaced)]
  rfl

/-- Two texts that are read at one place are one text. -/
theorem text_eq_of_read {path path' text text' : String} (h : t.read path = .ok text.toUTF8)
    (h' : t.read path' = .ok text'.toUTF8)
    (heq : FileTree.destination path' = FileTree.destination path) : text' = text := by
  have hread := read_of_destination_eq h (read_eq_ok.mp h').1 heq
  rw [h', Except.ok.injEq] at hread
  exact String.toByteArray_inj.mp hread

/-- The units are found whole exactly when no two of different texts go to one place, and none goes
to the place of a manifest that was written. -/
theorem keeps_iff
    (h : (g.write config out : ExceptT Error (StateM FileTree) _).run t = (.ok summary, t')) :
    g.Keeps config out t' ↔
      g.UnitsAgree config out ∧ (summary.manifest.isSome → g.ManifestAgrees config out) := by
  obtain ⟨outcomes, t₁, hunits, hplaced⟩ := exists_of_run_write h
  obtain ⟨-, hreads⟩ := run_writeUnits hunits
  constructor
  · intro hkeeps
    constructor
    · intro u hu v hv heq
      exact text_eq_of_read (hkeeps v hv) (hkeeps u hu) heq
    · intro hsome u hu heq
      rcases run_placeManifest hplaced with ⟨-, -, hread⟩ | ⟨hnone, -⟩
      · exact text_eq_of_read hread (hkeeps u hu) heq
      · rw [hnone] at hsome
        cases hsome
  · rintro ⟨hagree, hmanifest⟩ u hu
    obtain ⟨v, hv, heq, hread⟩ := hreads u hu
    rw [hagree v hv u hu heq] at hread
    rcases run_placeManifest hplaced with ⟨hplace, hchanges, hread'⟩ | ⟨-, hchanges⟩
    · have hsome : summary.manifest.isSome := by
        rw [hplace]
        rfl
      by_cases hplace : u.destination out = FileTree.destination (config.manifestPath out)
      · rw [hmanifest hsome u hu hplace]
        exact read_of_destination_eq hread' (hchanges.resolve (read_eq_ok.mp hread).1) hplace
      · exact hchanges.read hplace hread
    · exact hchanges.read (Set.notMem_empty _) hread

end Generation

namespace Snapshot

variable {s : Snapshot} {config : Config} {summary : WriteSummary}

/-! ## The law of the files -/

/-- When a generation was written, its units are found whole exactly when no two of different texts
went to one place, and none went to the place of the manifest. With usual settings that is to say
that no two units of different texts share a file. -/
theorem units_are_kept_unless_they_share_a_file
    (hnames : ∀ m ∈ s.models config, '/' ∉ m.package.toList ∧ '/' ∉ m.name.toList)
    (h : ((s.generate config).write config out : ExceptT Error (StateM FileTree) _).run t =
      (.ok summary, t')) :
    ((s.generate config).Keeps config out t' ↔
      (s.generate config).UnitsAgree config out ∧
        (summary.manifest.isSome → (s.generate config).ManifestAgrees config out)) ∧
    ('/' ∉ config.packageSuffix.toList → Path.IsName config.manifestFile →
      ((s.generate config).Keeps config out t' ↔
        ∀ u ∈ (s.generate config).units, ∀ v ∈ (s.generate config).units, u.SharesFile v →
          Kotlin.source config.retrieverDataType u =
            Kotlin.source config.retrieverDataType v)) := by
  have hkeeps := Generation.keeps_iff h
  refine ⟨hkeeps, ?_⟩
  intro hsuffix hfile
  have hslash : ∀ u ∈ (s.generate config).units,
      '/' ∉ u.package.toList ∧ '/' ∉ u.fileName.toList := by
    intro u hu
    rw [units_generate] at hu
    obtain ⟨m, hm, rfl⟩ := List.mem_map.mp hu
    exact noSlash_unit (hnames m hm).1 (hnames m hm).2 hsuffix
  rw [hkeeps]
  constructor
  · rintro ⟨hagree, -⟩ u hu v hv hshares
    apply hagree u hu v hv
    exact (WrapperUnit.destination_eq_iff (hslash u hu) (hslash v hv)).mpr hshares
  · intro hshares
    constructor
    · intro u hu v hv heq
      exact hshares u hu v hv ((WrapperUnit.destination_eq_iff (hslash u hu) (hslash v hv)).mp heq)
    · intro _ u hu heq
      obtain ⟨hpackage, hname⟩ := hslash u hu
      exact absurd heq (WrapperUnit.destination_ne_manifestPath hpackage hname hfile)

/-- A file of two classes, each with a model of some name inside. -/
def stockFile (first second : String) : SourceFile where
  path := "app/Stock.kt"
  package := "app"
  declarations :=
    let names : AnnotationNames := {}
    let model (name : String) : Node := Node.classNamed name |>.annotated { name := names.model }
    [Node.classNamed "Shop" |>.withMember (model first),
      Node.classNamed "Cart" |>.withMember (model second)]

/-- Models of two names are kept, though both are declared inside other classes. -/
theorem the_item_and_the_line_are_kept : ∃ s, ofFiles [stockFile "Item" "Line"] = .ok s ∧
    ∃ summary t', ((s.generate {}).write {} "out" : ExceptT Error (StateM FileTree) _).run {} =
        (.ok summary, t') ∧
      summary.written =
        ["out/kotlin/app/_kirok/ItemKirok.kt", "out/kotlin/app/_kirok/LineKirok.kt"] ∧
      (s.generate {}).Keeps {} "out" t' := by
  obtain ⟨s, hs, hnames, hshares, hwritten⟩ := exists_ofFiles_singleton (stockFile "Item" "Line")
    (fun s => (∀ m ∈ s.models {}, '/' ∉ m.package.toList ∧ '/' ∉ m.name.toList) ∧
      (∀ u ∈ (s.generate {}).units, ∀ v ∈ (s.generate {}).units, u.SharesFile v → u = v) ∧
      (((s.generate {}).write {} "out" : ExceptT Error (StateM FileTree) _).run {}).1 = .ok {
        written := ["out/kotlin/app/_kirok/ItemKirok.kt", "out/kotlin/app/_kirok/LineKirok.kt"]
        unchanged := 0
        manifest := some "out/resources/kirok_model.json" }) (by decide +kernel)
  obtain ⟨t', hrun⟩ := exists_of_fst_eq hwritten
  have hlaw := units_are_kept_unless_they_share_a_file hnames hrun
  refine ⟨s, hs, _, _, hrun, rfl, ?_⟩
  refine (hlaw.2 (by decide) (by decide)).mpr ?_
  intro u hu v hv hsame
  rw [hshares u hu v hv hsame]

/-- The unit of the item of a class of the package `app`. -/
def itemUnit (owner : String) : WrapperUnit where
  model := "app." ++ owner ++ ".Item"
  modelName := "Item"
  modelType := { name := "app." ++ owner ++ ".Item" }
  package := "app._kirok"
  fileName := "ItemKirok"
  saveFunction := "saveItem"
  loadFunction := "loadItem"
  init := none
  intents := []

theorem sortedNames_serializationImports :
    sortedNames Kotlin.serializationImports = Kotlin.serializationImports := by
  have hsorted : Kotlin.serializationImports.Pairwise fun a b => decide (a ≤ b) = true := by
    decide +kernel
  rw [sortedNames, List.mergeSort_of_pairwise hsorted]
  decide +kernel

/-- The source of a unit without wrappers. -/
def plainSource (u : WrapperUnit) : String :=
  let imports := Kotlin.serializationImports.map fun name => (⟨0, "import " ++ name⟩ : Kotlin.Line)
  let header : List Kotlin.Line :=
    [⟨0, "// Generated by kirok-gen from " ++ u.model ++ ". Do not edit."⟩,
      ⟨0, "package " ++ u.package⟩, Kotlin.blankLine] ++ imports ++ [Kotlin.blankLine]
  String.join ((header ++ Kotlin.saveLoadLines u).map Kotlin.Line.render)

theorem source_of_wrappers_eq_nil {u : WrapperUnit} (h : u.wrappers = []) (dataType : String) :
    Kotlin.source dataType u = plainSource u := by
  have himports : Kotlin.importsOf u = Kotlin.serializationImports := by
    have hnone : u.imports = [] := by
      rw [WrapperUnit.imports, h]
      show sortedNames [] = []
      rw [sortedNames, List.mergeSort_nil]
      rfl
    rw [Kotlin.importsOf, hnone, h, List.append_nil]
    exact sortedNames_serializationImports
  rw [Kotlin.source, Kotlin.lines, h, List.flatMap_nil, List.append_nil, Kotlin.headerLines,
    himports]
  rfl

theorem source_itemUnit (dataType owner : String) :
    Kotlin.source dataType (itemUnit owner) = plainSource (itemUnit owner) :=
  source_of_wrappers_eq_nil rfl dataType

/-- Both units are written, one after the other, into one file. -/
theorem writeUnits_itemUnits (dataType : String) : ∃ t',
    (writeUnits dataType "out" [itemUnit "Shop", itemUnit "Cart"] :
        ExceptT Error (StateM FileTree) _).run {} =
      (.ok [("out/kotlin/app/_kirok/ItemKirok.kt", true),
        ("out/kotlin/app/_kirok/ItemKirok.kt", true)], t') := by
  apply exists_of_fst_eq
  simp only [writeUnits, List.mapM_cons, List.mapM_nil, source_itemUnit]
  decide +kernel

/-- Two models of different qualified names share a file. Both units are counted as written, and
one of them is gone. -/
theorem the_item_of_the_shop_is_lost : ∃ s, ofFiles [stockFile "Item" "Item"] = .ok s ∧
    (s.models {}).map (·.qualifiedName) = ["app.Shop.Item", "app.Cart.Item"] ∧
    (∀ m ∈ s.models {}, '/' ∉ m.package.toList ∧ '/' ∉ m.name.toList) ∧
    ∃ summary t', ((s.generate {}).write {} "out" : ExceptT Error (StateM FileTree) _).run {} =
        (.ok summary, t') ∧
      summary.written =
        ["out/kotlin/app/_kirok/ItemKirok.kt", "out/kotlin/app/_kirok/ItemKirok.kt"] ∧
      ¬ (s.generate {}).Keeps {} "out" t' := by
  obtain ⟨s, hs, hunits, hqualified, hnames⟩ := exists_ofFiles_singleton (stockFile "Item" "Item")
    (fun s => (s.generate {}).units = [itemUnit "Shop", itemUnit "Cart"] ∧
      (s.models {}).map (·.qualifiedName) = ["app.Shop.Item", "app.Cart.Item"] ∧
      ∀ m ∈ s.models {}, '/' ∉ m.package.toList ∧ '/' ∉ m.name.toList) (by decide +kernel)
  obtain ⟨t₁, hwritten⟩ := writeUnits_itemUnits ({} : Config).retrieverDataType
  rw [← hunits] at hwritten
  obtain ⟨summary, t', hrun, hsummary⟩ := Generation.run_write_of_writeUnits hwritten
  refine ⟨s, hs, hqualified, hnames, summary, t', hrun, hsummary, ?_⟩
  intro hkeeps
  have hagree := ((Generation.keeps_iff hrun).mp hkeeps).1
  rw [Generation.UnitsAgree, hunits] at hagree
  have hsame := hagree (itemUnit "Shop") (by simp) (itemUnit "Cart") (by simp) rfl
  rw [source_itemUnit, source_itemUnit] at hsame
  revert hsame
  decide +kernel

end Snapshot

end BoundaryGen
