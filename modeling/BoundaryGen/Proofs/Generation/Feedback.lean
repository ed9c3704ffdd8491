-- The output of a generation never becomes input. Whatever a generation leaves below a directory,
-- the directory holds the same project as before: the units are no documents, the manifest is
-- skipped, and neither of them is the configuration or a file of rules.
import Mathlib
import BoundaryGen.Commands
import BoundaryGen.Proofs.Files.Seen
import BoundaryGen.Proofs.Generation.Accounting
import BoundaryGen.Proofs.Generation.WritingAgain

namespace BoundaryGen

open FileTree (Grown Preserves exists_of_run_bind run_bind_of_ok run_liftM concat_mem_placesOf)

variable {t t' t₁ : FileTree} {root : Trail} {directory out path name : String}
  {made : String → Bool} {config : Config} {p : Project}

/-! ## Programs that only read -/

section Repeats

variable {ε α β : Type}

/-- What a program answers on one tree it answers on another, and it changes neither. -/
def Repeats (t t' : FileTree) (x : ExceptT ε (StateM FileTree) α) : Prop :=
  ∀ a t₁, x.run t = (.ok a, t₁) → t₁ = t ∧ x.run t' = (.ok a, t')

namespace Repeats

theorem pure (t t' : FileTree) (a : α) :
    Repeats t t' (Pure.pure a : ExceptT ε (StateM FileTree) α) := by
  intro b t₁ h
  cases h
  exact ⟨rfl, rfl⟩

theorem throw (t t' : FileTree) (e : ε) :
    Repeats t t' (throwThe ε e : ExceptT ε (StateM FileTree) α) := by
  intro b t₁ h
  cases h

theorem liftExcept (t t' : FileTree) (x : Except ε α) :
    Repeats t t' (liftExcept x : ExceptT ε (StateM FileTree) α) := by
  cases x with
  | ok a => exact .pure t t' a
  | error e => exact .throw t t' e

theorem bind {x : ExceptT ε (StateM FileTree) α} {f : α → ExceptT ε (StateM FileTree) β}
    (hx : Repeats t t' x) (hf : ∀ a, Repeats t t' (f a)) : Repeats t t' (x >>= f) := by
  intro b t₂ h
  obtain ⟨a, t₁, hrun, h⟩ := exists_of_run_bind h
  obtain ⟨hsame, hrun'⟩ := hx a t₁ hrun
  rw [hsame] at h
  rw [run_bind_of_ok hrun']
  exact hf a b t₂ h

/-- A part whose answer is known on both trees. -/
theorem bind_known {x : StateM FileTree α} {a : α} {f : α → ExceptT ε (StateM FileTree) β}
    (h : x.run t = (a, t)) (h' : x.run t' = (a, t')) (hf : Repeats t t' (f a)) :
    Repeats t t' (liftM x >>= f) := by
  intro b t₁ hrun
  rw [run_bind_of_ok (run_liftM h)] at hrun
  rw [run_bind_of_ok (run_liftM h')]
  exact hf b t₁ hrun

theorem mapM {list : List α} {f : α → ExceptT ε (StateM FileTree) β}
    (h : ∀ a ∈ list, Repeats t t' (f a)) : Repeats t t' (list.mapM f) := by
  induction list with
  | nil => exact .pure t t' []
  | cons a list ih =>
    rw [List.mapM_cons]
    have hrest := ih fun b hb => h b (List.mem_cons_of_mem a hb)
    exact (h a List.mem_cons_self).bind fun _ => hrest.bind fun _ => .pure t t' _

theorem adapt {ε' : Type} {x : ExceptT ε (StateM FileTree) α} (h : Repeats t t' x) (f : ε → ε') :
    Repeats t t' (x.adapt f) := by
  intro a t₁ hrun
  change ((x.run t).1.mapError f, (x.run t).2) = _ at hrun
  rcases hx : x.run t with ⟨e | b, t₂⟩
  · rw [hx] at hrun
    cases hrun
  · rw [hx] at hrun
    cases hrun
    obtain ⟨hsame, hrun'⟩ := h _ _ hx
    refine ⟨hsame, ?_⟩
    show ((x.run t').1.mapError f, (x.run t').2) = _
    rw [hrun']
    rfl

/-- A file that is read alike. -/
theorem readText (h : ∀ content, t.read path = .ok content → t'.read path = .ok content) :
    Repeats t t' (Disk.readText path : ExceptT IoError (StateM FileTree) String) := by
  have hread : Repeats t t' (Disk.read path : ExceptT IoError (StateM FileTree) ByteArray) := by
    intro content t₁ hrun
    obtain ⟨hread, hsame⟩ := Prod.mk.inj (hrun : (t.read path, t) = (.ok content, t₁))
    exact ⟨hsame.symm, congrArg (·, t') (h content hread)⟩
  refine hread.bind fun content => ?_
  cases String.fromUTF8? content with
  | none => exact .throw t t' _
  | some text => exact .pure t t' text

end Repeats

end Repeats

/-! ## Projects -/

/-- Names that are no input: files of these names hold no rules, are no configuration, and are
skipped among the documents. -/
structure Unread (config : Config) (made : String → Bool) : Prop where
  rules : ∀ name ∈ FileTree.ruleNames, made name = false
  configuration : made Config.fileName = false
  documents : ∀ directory name, Path.IsName name → made name = true →
    isSnapshotFile [config.manifestFile] (Path.join directory name) = false

/-- The documents below a directory are those that are seen, in the order of their paths. -/
theorem run_snapshotFiles (hfind : t.find directory = .ok (root, .directory))
    (skip : List String) :
    (snapshotFiles skip directory : StateM FileTree _).run t =
      ((((t.entries.entries.filter (t.isSeenFrom directory root)).map
        (FileTree.pathBelow directory root)).filter (isSnapshotFile skip)).mergeSort
          Path.notAfter, t) := by
  unfold snapshotFiles
  rw [FileTree.run_bind_of_run (FileTree.run_filesBelow hfind)]
  rfl

theorem run_configDirectory (hfind : t.find directory = .ok (root, .directory)) :
    (configDirectory directory : StateM FileTree _).run t = (directory, t) := by
  have hkind : t.kind? directory = some .directory := by
    unfold FileTree.kind?
    rw [hfind]
    rfl
  have hasked : (Disk.isDirectory directory : StateM FileTree Bool).run t = (true, t) := by
    show (decide (t.kind? directory = some .directory), t) = _
    rw [hkind]
    rfl
  unfold configDirectory
  rw [FileTree.run_bind_of_run hasked]
  rfl

namespace Unread

variable (hunread : Unread config made) (h : Grown made t t')
  (hfind : t.find directory = .ok (root, .directory))

include hunread h hfind

/-- The configuration of a directory is the same. -/
theorem repeats_discover : Repeats t t' (Config.discover none directory) := by
  have hname : Path.IsName Config.fileName := by decide
  have hfile : t'.kind? (Path.join directory Config.fileName) = some .file ↔
      t.kind? (Path.join directory Config.fileName) = some .file := by
    rw [FileTree.kind?_join_name_eq_file hfind hname,
      FileTree.kind?_join_name_eq_file (h.find_directory hfind) hname]
    refine exists_congr (h.file ?_)
    rw [concat_mem_placesOf, hunread.configuration]
    exact Bool.false_ne_true
  refine .bind_known (a := decide (t.kind? (Path.join directory Config.fileName) = some .file)) rfl
    (congrArg (·, t') (decide_eq_decide.mpr hfile)) ?_
  split
  · refine (Repeats.readText fun content => h.read ?_).adapt _ |>.bind fun text => ?_
    · rw [← FileTree.resolve_eq_ok (FileTree.resolve_join_name hfind hname), concat_mem_placesOf,
        hunread.configuration]
      exact Bool.false_ne_true
    · cases Config.ofToml text with
      | none => exact .throw t t' _
      | some config => exact .pure t t' config
  · exact .pure t t' _

/-- The snapshot of a directory is the same. -/
theorem repeats_snapshot (ht : t.WellFormed) :
    Repeats t t' (Snapshot.load [config.manifestFile] directory) := by
  have hkind {t₁ : FileTree} (hfind₁ : t₁.find directory = .ok (root, .directory)) :
      (Disk.kind? directory : StateM FileTree _).run t₁ = (some .directory, t₁) := by
    show (t₁.kind? directory, t₁) = _
    rw [FileTree.kind?, hfind₁]
    rfl
  have hfind' := h.find_directory hfind
  have hfiles := run_snapshotFiles hfind' [config.manifestFile]
  rw [h.filter_filesBelow ht hunread.rules hfind hunread.documents] at hfiles
  refine Repeats.bind ?_ fun files => .liftExcept t t' _
  refine .bind_known (hkind hfind) (hkind hfind') ?_
  refine .bind_known (run_snapshotFiles hfind _) hfiles ?_
  refine Repeats.bind (Repeats.mapM fun path hpath => ?_) fun documents => .pure t t' _
  -- A document is a file that was there, under a name of its own.
  obtain ⟨hpath, hwanted⟩ := List.mem_filter.mp ((List.mergeSort_perm _ _).mem_iff.mp hpath)
  obtain ⟨e, he, rfl⟩ := List.mem_map.mp hpath
  obtain ⟨he, hseen⟩ := List.mem_filter.mp he
  have hkept := FileTree.isKept_of_isSeenFrom ht he hseen hwanted hunread.documents
  refine (Repeats.readText fun content => h.read ?_).adapt _ |>.bind fun text => .liftExcept t t' _
  rw [FileTree.destination_pathBelow ht hfind he hseen]
  intro hmade
  have hlast : e.1.getLast?.any made = true := hmade
  rw [FileTree.isKept, hlast] at hkept
  simp at hkept

end Unread

/-- A directory has a project when it has a configuration and a snapshot for it. -/
theorem run_load_iff (hfind : t.find directory = .ok (root, .directory)) :
    (Project.load directory none : ExceptT Error (StateM FileTree) _).run t = (.ok p, t₁) ↔
      ∃ t₂, (Config.discover none directory : ExceptT Error (StateM FileTree) _).run t =
          (.ok p.config, t₂) ∧
        (Snapshot.load [p.config.manifestFile] directory :
          ExceptT Error (StateM FileTree) _).run t₂ = (.ok p.snapshot, t₁) := by
  unfold Project.load
  rw [run_bind_of_ok (run_liftM (run_configDirectory hfind))]
  constructor
  · intro h
    obtain ⟨config, t₂, hconfig, h⟩ := exists_of_run_bind h
    obtain ⟨snapshot, t₃, hsnapshot, h⟩ := exists_of_run_bind h
    cases h
    exact ⟨t₂, hconfig, hsnapshot⟩
  · rintro ⟨t₂, hconfig, hsnapshot⟩
    rw [run_bind_of_ok hconfig, run_bind_of_ok hsnapshot]
    rfl

/-- A directory has the same project when the tree has grown by names that are no input. -/
theorem FileTree.Grown.run_load (h : Grown made t t') (ht : t.WellFormed)
    (hfind : t.find directory = .ok (root, .directory)) (hunread : Unread p.config made)
    (hload : ((Project.load directory none : ExceptT Error (StateM FileTree) _).run t).1 =
      .ok p) :
    (Project.load directory none : ExceptT Error (StateM FileTree) _).run t = (.ok p, t) ∧
      (Project.load directory none : ExceptT Error (StateM FileTree) _).run t' = (.ok p, t') := by
  obtain ⟨t₁, hrun⟩ := exists_of_fst_eq hload
  obtain ⟨t₂, hconfig, hsnapshot⟩ := (run_load_iff hfind).mp hrun
  obtain ⟨rfl, hconfig'⟩ := hunread.repeats_discover h hfind _ _ hconfig
  obtain ⟨rfl, hsnapshot'⟩ := hunread.repeats_snapshot h hfind ht _ _ hsnapshot
  exact ⟨hrun, (run_load_iff (h.find_directory hfind)).mpr ⟨t', hconfig', hsnapshot'⟩⟩

/-! ## The names of the output -/

namespace Config

/-- The manifest and every unit have such a name. -/
def isOutput (c : Config) (name : String) : Bool :=
  name = c.manifestFile || ".kt".toList.isSuffixOf name.toList

variable {c : Config}

theorem isOutput_eq_false (hjson : ".json".toList <:+ c.manifestFile.toList)
    (h : ".json".toList.isSuffixOf name.toList = false)
    (h' : ".kt".toList.isSuffixOf name.toList = false) : c.isOutput name = false := by
  unfold isOutput
  rw [h', Bool.or_false, decide_eq_false_iff_not]
  rintro rfl
  rw [List.isSuffixOf_iff_suffix.mpr hjson] at h
  cases h

end Config

theorem Path.fileName?_join (h : Path.IsName name) (directory : String) :
    fileName? (join directory name) = some name := by
  obtain ⟨kept, -, hjoin⟩ := exists_pieces_join directory name
  rw [h.pieces] at hjoin
  have hlast : (parts (join directory name)).getLast? = some name := by
    unfold parts
    rw [hjoin, List.filter_append, List.filter_cons_of_pos (by simp [h.nonempty, h.noDot])]
    dsimp only
    split
    · rw [List.filter_nil, ← List.cons_append, List.getLast?_concat]
    · rw [List.filter_nil, List.getLast?_concat]
  unfold fileName?
  rw [hlast]
  split
  · rename_i heq
    exact absurd (Option.some.inj heq) h.noDots
  · rename_i heq
    exact absurd (Option.some.inj heq) h.noDot
  · rfl

theorem Path.extension?_join_ne_json (h : Path.IsName name) (directory : String)
    (hkotlin : ".kt".toList.isSuffixOf name.toList = true) :
    extension? (join directory name) ≠ some "json" := by
  obtain ⟨stem, hstem⟩ := List.isSuffixOf_iff_suffix.mp hkotlin
  have hreversed : name.toList.reverse = 't' :: 'k' :: '.' :: stem.reverse := by
    rw [← hstem, List.reverse_append]
    rfl
  have hending : (name.toList.reverse.takeWhile (· ≠ '.')).reverse = ['k', 't'] := by
    rw [hreversed]
    rfl
  unfold extension?
  rw [fileName?_join h, Option.bind_eq_bind, Option.bind_some]
  dsimp only
  rw [hending]
  split
  · decide
  · exact nofun

/-- Nothing that is written is input, when the manifest is a JSON file. -/
theorem Config.unread_isOutput (hjson : ".json".toList <:+ config.manifestFile.toList) :
    Unread config config.isOutput where
  rules := by
    have hnames : ∀ name ∈ FileTree.ruleNames, ".json".toList.isSuffixOf name.toList = false ∧
        ".kt".toList.isSuffixOf name.toList = false := by decide
    intro name hname
    exact isOutput_eq_false hjson (hnames name hname).1 (hnames name hname).2
  configuration := isOutput_eq_false hjson (by decide) (by decide)
  documents directory name hname hmade := by
    unfold isOutput at hmade
    rw [Bool.or_eq_true, decide_eq_true_eq] at hmade
    unfold isSnapshotFile
    rw [Bool.and_eq_false_iff]
    rcases hmade with rfl | hkotlin
    · right
      rw [Path.fileName?_join hname, Option.any_some]
      simp
    · left
      exact decide_eq_false (Path.extension?_join_ne_json hname directory hkotlin)

/-! ## The ways to the output -/

namespace WrapperUnit

variable {u : WrapperUnit}

/-- The parts of a package have no dots, so that none of them is hidden. -/
theorem isVisible_of_mem_packageParts {part piece : String} (hpart : part ∈ u.packageParts)
    (hpiece : piece ∈ Path.pieces part) : FileTree.IsVisible piece := by
  obtain ⟨chars, hchars, rfl⟩ := List.mem_map.mp (List.mem_filter.mp hpart).1
  obtain ⟨cs, hcs, rfl⟩ := List.mem_map.mp hpiece
  rw [String.toList_ofList] at hcs
  refine Or.inr fun hhead => ?_
  rw [String.toList_ofList] at hhead
  have hdot := (Path.mem_of_mem_splitAt hcs (List.mem_of_mem_head? hhead)).1
  exact (Path.mem_of_mem_splitAt hchars hdot).2 rfl

/-- The way to a unit can be passed when the way to the output can be. -/
theorem exists_passable_path (h : t.Passable (Path.pieces out)) (hfile : Path.IsName u.file) :
    ∃ around, Path.pieces (u.path out) = around ++ [u.file] ∧ t.Passable around := by
  have hpass : t.Passable (Path.pieces (Path.join out "kotlin")) := by
    refine h.join ?_
    rw [isName_kotlin.pieces]
    simp [FileTree.IsVisible]
  obtain ⟨kept, hkept, hjoin⟩ := Path.exists_pieces_join (Path.ofParts u.packageParts) u.file
  rw [hfile.pieces] at hjoin
  refine hpass.exists_join (fun piece hpiece => ?_) hjoin
  rcases Path.mem_pieces_extend (hkept.subset hpiece) with hempty | ⟨part, hpart, hpiece⟩
  · rw [List.mem_singleton.mp hempty]
    simp [FileTree.IsVisible]
  · exact isVisible_of_mem_packageParts hpart hpiece

end WrapperUnit

theorem Config.exists_passable_manifestPath (h : t.Passable (Path.pieces out))
    (hfile : Path.IsName config.manifestFile) :
    ∃ around, Path.pieces (config.manifestPath out) = around ++ [config.manifestFile] ∧
      t.Passable around := by
  have hpass : t.Passable (Path.pieces (Path.join out "resources")) := by
    refine h.join ?_
    rw [WrapperUnit.isName_resources.pieces]
    simp [FileTree.IsVisible]
  have hpieces : Path.pieces config.manifestFile = [] ++ [config.manifestFile] := hfile.pieces
  exact hpass.exists_join (List.forall_mem_nil _) hpieces

/-! ## Generating -/

theorem WrapperUnit.isOutput_file (u : WrapperUnit) (config : Config) :
    config.isOutput u.file = true := by
  have hending : ".kt".toList <:+ u.file.toList := by
    rw [toList_file]
    exact List.suffix_append _ _
  unfold Config.isOutput
  rw [List.isSuffixOf_iff_suffix.mpr hending, Bool.or_true]

/-- A tree grows by the files of a generation, also when the writing stops half way. -/
theorem grown_write (s : Snapshot) (config : Config) (ht : t.WellFormed)
    (hpass : t.Passable (Path.pieces out)) (hmanifest : Path.IsName config.manifestFile)
    (hnames : ∀ m ∈ s.models config, '/' ∉ m.name.toList) :
    Grown config.isOutput t (((s.generate config).write config out :
      ExceptT Error (StateM FileTree) WriteSummary).run t).2 := by
  refine Generation.preserves_write (I := Grown config.isOutput t) (fun u hu => ?_) ?_ t
    (.refl ht _)
  · rw [Snapshot.units_generate] at hu
    obtain ⟨m, hm, rfl⟩ := List.mem_map.mp hu
    have hfile := WrapperUnit.isName_file (Snapshot.noSlash_fileName_unit (hnames m hm) s config)
    obtain ⟨around, hpieces, haround⟩ := WrapperUnit.exists_passable_path hpass hfile
    have hmade := WrapperUnit.isOutput_file (s.unit config m).1 config
    exact FileTree.preserves_writeWithin hmade hfile hpieces haround _
  · obtain ⟨around, hpieces, haround⟩ := Config.exists_passable_manifestPath hpass hmanifest
    refine FileTree.preserves_writeWithin ?_ hmanifest hpieces haround _
    unfold Config.isOutput
    rw [decide_eq_true rfl, Bool.true_or]

theorem grown_generateFrom (ht : t.WellFormed) (hpass : t.Passable (Path.pieces out))
    (hmanifest : Path.IsName p.config.manifestFile)
    (hnames : ∀ m ∈ p.snapshot.models p.config, '/' ∉ m.name.toList) (force useLog : Bool) :
    Grown p.config.isOutput t
      ((Command.generateFrom out force useLog p : StateM FileTree Outcome).run t).2 := by
  obtain ⟨s, config⟩ := p
  unfold Command.generateFrom
  dsimp only
  split
  · exact .refl ht _
  · -- The log is no matter of where the files go.
    have hgrown : Grown config.isOutput t
        (StateT.run (Generation.write (m := StateM FileTree) _ _ out).run t).2 :=
      grown_write s { config with useLog := config.useLog || useLog } ht hpass hmanifest hnames
    rcases hrun : StateT.run (Generation.write (m := StateM FileTree)
      (s.generate { config with useLog := config.useLog || useLog })
      { config with useLog := config.useLog || useLog } out).run t with ⟨e | summary, t'⟩
    · rw [hrun] at hgrown
      rw [FileTree.run_bind_of_run hrun]
      exact hgrown
    · rw [hrun] at hgrown
      rw [FileTree.run_bind_of_run hrun]
      exact hgrown

/-- A generation starts from the project of its directory. -/
theorem run_runGenerate
    (h : (Project.load directory none : ExceptT Error (StateM FileTree) _).run t = (.ok p, t₁))
    (out : String) (force useLog : Bool) :
    (Command.runGenerate directory out force useLog none : StateM FileTree Outcome).run t =
      (Command.generateFrom out force useLog p : StateM FileTree Outcome).run t₁ := by
  have hrun : StateT.run (Project.load (m := StateM FileTree) directory none).run t =
    (.ok p, t₁) := h
  unfold Command.runGenerate
  rw [FileTree.run_bind_of_run hrun]

/-! ## The law of the second run -/

/-- A generation into its own directory, or below it where nothing is hidden, leaves the project of
the directory as it was, whether all files were written or not. So a second generation starts from
the same snapshot and the same configuration. -/
theorem output_never_becomes_input {outcome : Outcome} {force useLog : Bool} (ht : t.WellFormed)
    (hfind : t.find directory = .ok (root, .directory))
    (hload : ((Project.load directory none : ExceptT Error (StateM FileTree) _).run t).1 = .ok p)
    (hinside : t.Inside root out) (hmanifest : Path.IsName p.config.manifestFile)
    (hjson : ".json".toList <:+ p.config.manifestFile.toList)
    (hnames : ∀ m ∈ p.snapshot.models p.config, '/' ∉ m.name.toList)
    (hrun : (Command.runGenerate directory out force useLog none : StateM FileTree Outcome).run t =
      (outcome, t')) :
    (Project.load directory none : ExceptT Error (StateM FileTree) _).run t' = (.ok p, t') ∧
    ∀ out₂ force₂ useLog₂,
      (Command.runGenerate directory out₂ force₂ useLog₂ none : StateM FileTree Outcome).run t =
        (Command.generateFrom out₂ force₂ useLog₂ p : StateM FileTree Outcome).run t ∧
      (Command.runGenerate directory out₂ force₂ useLog₂ none : StateM FileTree Outcome).run t' =
        (Command.generateFrom out₂ force₂ useLog₂ p : StateM FileTree Outcome).run t' := by
  have hunread := Config.unread_isOutput hjson
  -- Loading alone does not change the tree.
  have hfirst := ((Grown.refl ht p.config.isOutput).run_load ht hfind hunread hload).1
  have hgrown := grown_generateFrom ht (hinside.passable (FileTree.find_eq_ok.mp hfind).2)
    hmanifest hnames force useLog
  rw [← run_runGenerate hfirst, hrun] at hgrown
  have hsecond := (FileTree.Grown.run_load hgrown ht hfind hunread hload).2
  exact ⟨hsecond, fun out₂ force₂ useLog₂ =>
    ⟨run_runGenerate hfirst out₂ force₂ useLog₂, run_runGenerate hsecond out₂ force₂ useLog₂⟩⟩

/-- A document with one file, which declares a model. -/
def noticeText : String :=
  "\x7b\"files\": [\x7b\"path\": \"app/Notice.kt\", \"package\": \"app\", \"declarations\": [" ++
  "\x7b\"kind\": \"class\", \"name\": \"Notice\", \"annotations\": [\x7b\"name\": \"" ++
  ({} : AnnotationNames).model ++ "\"\x7d]\x7d]\x7d]\x7d"

/-- A directory with that document alone. -/
def noticeTree : FileTree :=
  (({} : FileTree).put ["in"] .directory).put ["in", "app.json"] (.file noticeText.toUTF8)

theorem wellFormed_noticeTree : noticeTree.WellFormed := by
  have hroot : ({} : FileTree).get? [] = some .directory := rfl
  have hdirectory := FileTree.wellFormed_empty.put (by decide : Path.IsName "in") hroot (Or.inl rfl)
  have hin : (({} : FileTree).put ["in"] .directory).get? ["in"] = some .directory := rfl
  exact hdirectory.put (by decide : Path.IsName "app.json") hin (Or.inr nofun)

/-- The units and the manifest may stand beside the document that they come from. -/
theorem the_notice_is_generated_beside_its_document :
    ∃ p outcome t', ((Project.load "in" none : ExceptT Error (StateM FileTree) _).run
        noticeTree).1 = .ok p ∧ (p.snapshot.models p.config).map (·.name) = ["Notice"] ∧
      (Command.runGenerate "in" "in" true false none : StateM FileTree Outcome).run noticeTree =
        (outcome, t') ∧
      (Project.load "in" none : ExceptT Error (StateM FileTree) _).run t' = (.ok p, t') := by
  have hany : ((Project.load "in" none : ExceptT Error (StateM FileTree) _).run
      noticeTree).1.toOption.any (fun p => p.config = {} ∧
        (p.snapshot.models {}).map (·.name) = ["Notice"]) = true := by decide +kernel
  rcases hload : ((Project.load "in" none : ExceptT Error (StateM FileTree) _).run noticeTree).1
    with e | p
  · rw [hload] at hany
    cases hany
  · rw [hload] at hany
    obtain ⟨hconfig, hmodels⟩ := of_decide_eq_true hany
    have hfind : noticeTree.find "in" = .ok (["in"], .directory) := by decide +kernel
    have hnames : ∀ m ∈ p.snapshot.models p.config, '/' ∉ m.name.toList := by
      intro m hm
      rw [hconfig] at hm
      have hname := List.mem_map_of_mem (f := (·.name)) hm
      rw [hmodels, List.mem_singleton] at hname
      rw [hname]
      decide
    have hinside : noticeTree.Inside ["in"] (Path.extend "in" []) :=
      FileTree.inside_extend hfind nofun
    rcases hrun : (Command.runGenerate "in" "in" true false none : StateM FileTree Outcome).run
      noticeTree with ⟨outcome, t'⟩
    refine ⟨p, outcome, t', rfl, by rw [hconfig, hmodels], rfl, ?_⟩
    exact (output_never_becomes_input wellFormed_noticeTree hfind hload hinside
      (by rw [hconfig]; decide) (by rw [hconfig]; decide) hnames hrun).1

end BoundaryGen
