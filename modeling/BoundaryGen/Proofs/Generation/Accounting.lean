-- The account of a generation: each function of a model has its wrapper, or
-- there is one error that says why not. So the errors of a run tell exactly whether
-- some model lacks a wrapper, and the command that checks a snapshot fails just then.
import Mathlib
import BoundaryGen.Commands
import BoundaryGen.Proofs.Files.Changes
import BoundaryGen.Proofs.Wrapper.Serving
import BoundaryGen.Source.Build

namespace BoundaryGen

/-! ## Errors -/

theorem Diagnostics.hasErrors_iff {ds : Diagnostics} :
    Diagnostics.hasErrors ds = true ↔ ∃ d ∈ ds, d.severity = .error := by
  simp only [hasErrors, errorCount, count, decide_eq_true_eq, List.length_pos_iff_exists_mem,
    List.mem_filter]

/-! ## Lists in step -/

section
variable {α β : Type} {R : α → β → Prop} {as : List α} {bs : List β}

theorem exists_right_of_forall₂ (h : List.Forall₂ R as bs) {a : α} (ha : a ∈ as) :
    ∃ b ∈ bs, R a b := by
  induction h with
  | nil => cases ha
  | cons hr _ ih =>
    rcases List.mem_cons.mp ha with rfl | ha
    · exact ⟨_, List.mem_cons_self, hr⟩
    · obtain ⟨b, hb, hab⟩ := ih ha
      exact ⟨b, List.mem_cons_of_mem _ hb, hab⟩

theorem exists_left_of_forall₂ (h : List.Forall₂ R as bs) {b : β} (hb : b ∈ bs) :
    ∃ a ∈ as, R a b :=
  exists_right_of_forall₂ (R := flip R) h.flip hb

end

namespace Snapshot

variable {s : Snapshot} {config : Config} {m : Model} {u : WrapperUnit} {ds : Diagnostics}

/-! ## The account of a model -/

/-- All that is to be said about a model: that it is generic, each name that intents share, what
keeps its init function from a wrapper, and each intent with a name of its own that lacks its
retriever. -/
def faults (s : Snapshot) (config : Config) (m : Model) : List Finding :=
  (if m.type.arguments.isEmpty then [] else [.genericModel m.qualifiedName m.name])
    ++ m.sharedNames.map (.repeatedIntent m.qualifiedName)
    ++ (s.initFault? config m).toList
    ++ (m.intents.filter fun i => m.HasOwnName i).filterMap fun i =>
      s.retrieverFault? config m i.decl i.usesRetriever

/-- The unit of a model and its diagnostics account for each function of the model. -/
structure Accounts (s : Snapshot) (config : Config) (m : Model) (u : WrapperUnit)
    (ds : Diagnostics) : Prop where
  model : u.model = m.qualifiedName
  /-- One wrapper for each intent that has a name of its own and is served, in their order. -/
  intents : List.Forall₂ (s.WrapsIntent config m)
    (m.intents.filter fun i => m.HasOwnName i ∧ s.Served config m i.decl i.usesRetriever) u.intents
  init : u.init.isSome = true ↔ ∃ i, m.init = some i ∧ s.CanStart config m i
  wrapsInit : ∀ w, u.init = some w → ∃ i, m.init = some i ∧ s.WrapsInit config m i w
  initFault : s.initFault? config m = none ↔ u.init.isSome = true
  diagnostics : ds = (s.faults config m).map Finding.diagnostic

/-- The unit has no wrapper for the init function of the model, or none for an intent of it. -/
def LacksWrapper (s : Snapshot) (config : Config) (m : Model) (u : WrapperUnit) : Prop :=
  u.init = none ∨ ∃ i ∈ m.intents, ∀ w ∈ u.intents, ¬ s.WrapsIntent config m i w

/-- The unit holds a wrapper for each intent that can have one. -/
theorem intents_unit (hs : Functions s m) (config : Config) :
    List.Forall₂ (s.WrapsIntent config m)
      (m.intents.filter fun i => m.HasOwnName i ∧ s.Served config m i.decl i.usesRetriever)
      (s.unit config m).1.intents := by
  have hwraps := (wrapsIntents hs.model config fun i hi =>
    hs.intents i (Model.mem_intents_of_mem_distinctIntents hi)).1
  have hfilter : (m.intents.filter fun i =>
      m.HasOwnName i ∧ s.Served config m i.decl i.usesRetriever) =
        m.distinctIntents.filter fun i => s.Served config m i.decl i.usesRetriever := by
    rw [m.distinctIntents_eq_filter, List.filter_filter]
    refine List.filter_congr fun i _ => ?_
    rw [Bool.decide_and, Bool.and_comm]
  rw [hfilter]
  exact hwraps

/-- What is found on the way to a unit are the faults of the model. -/
theorem findings_unit (hs : Functions s m) (config : Config) :
    (s.unit config m).2 = s.faults config m := by
  have hintents := (wrapsIntents hs.model config fun i hi =>
    hs.intents i (Model.mem_intents_of_mem_distinctIntents hi)).2
  have hinit : (s.initOutcome config m).2 = (s.initFault? config m).toList := by
    rcases initOutcome_cases hs config with ⟨i, w, -, -, hfault, -, hout⟩ | ⟨fault, -, hfault, hout⟩
    · rw [hout, hfault]
      rfl
    · rw [hout, hfault]
      rfl
  rw [faults, ← m.distinctIntents_eq_filter, ← hintents, ← hinit, ← m.repeatedNames_eq_sharedNames]
  rfl

theorem accounts_unit (hs : Functions s m) (config : Config) :
    Accounts s config m (s.unit config m).1 ((s.unit config m).2.map Finding.diagnostic) := by
  have hsaid : (s.unit config m).2.map Finding.diagnostic =
      (s.faults config m).map Finding.diagnostic := congrArg _ (findings_unit hs config)
  rcases initOutcome_cases hs config with
    ⟨i, w, hi, hstart, hfault, hw, hout⟩ | ⟨fault, hstart, hfault, hout⟩
  · have hinit : (s.unit config m).1.init = some w := congrArg Prod.fst hout
    refine ⟨rfl, intents_unit hs config, ?_, ?_, ?_, hsaid⟩
    · rw [hinit]
      exact ⟨fun _ => ⟨i, hi, hstart⟩, fun _ => rfl⟩
    · rw [hinit]
      rintro _ ⟨⟩
      exact ⟨i, hi, hw⟩
    · rw [hinit]
      exact ⟨fun _ => rfl, fun _ => hfault⟩
  · have hinit : (s.unit config m).1.init = none := congrArg Prod.fst hout
    refine ⟨rfl, intents_unit hs config, ?_, ?_, ?_, hsaid⟩
    · rw [hinit]
      refine ⟨by rintro ⟨⟩, ?_⟩
      rintro ⟨i, hi, hcan⟩
      exact absurd hcan (hstart i hi)
    · rw [hinit]
      rintro _ ⟨⟩
    · rw [hinit, hfault]
      exact ⟨by rintro ⟨⟩, by rintro ⟨⟩⟩

/-! ## Errors of a model -/

theorem WrapsIntent.name_eq {i j : Intent} {w : Wrapper} (hi : s.WrapsIntent config m i w)
    (hj : s.WrapsIntent config m j w) : i.name = j.name :=
  String.append_left_inj _ |>.mp (hi.name.symm.trans hj.name)

/-- An intent has a wrapper exactly when it has a name of its own and is served. -/
theorem Accounts.wraps_iff (h : Accounts s config m u ds) (hs : Functions s m) {i : Intent}
    (hi : i ∈ m.intents) : (∃ w ∈ u.intents, s.WrapsIntent config m i w) ↔
      m.HasOwnName i ∧ s.Served config m i.decl i.usesRetriever := by
  constructor
  · rintro ⟨w, hw, hwraps⟩
    obtain ⟨j, hj, hwrapsj⟩ := exists_left_of_forall₂ h.intents hw
    obtain ⟨hjm, hj⟩ := List.mem_filter.mp hj
    obtain ⟨hown, -⟩ := of_decide_eq_true hj
    refine ⟨?_, hwraps.served hs hi⟩
    rw [Model.HasOwnName, hwraps.name_eq hwrapsj]
    exact hown
  · intro hok
    exact exists_right_of_forall₂ h.intents (List.mem_filter.mpr ⟨hi, decide_eq_true hok⟩)

/-- The intents that have an error are those with a name of their own that are not served. -/
theorem retrieverFault?_isSome (hs : Functions s m) {i : Intent} (hi : i ∈ m.intents)
    (config : Config) : (s.retrieverFault? config m i.decl i.usesRetriever).isSome = true ↔
      ¬ s.Served config m i.decl i.usesRetriever := by
  rcases bindingFor_cases hs.model (hs.intents i hi) config .intent i.usesRetriever with
    ⟨hserved, herror, -⟩ | ⟨hserved, e, herror, -⟩
  · simp [retrieverFault?, herror, hserved]
  · simp [retrieverFault?, herror, hserved]

/-- What is found about an init function or for want of a retriever is an error. -/
theorem severity_retrieverFault {function : DeclId} {usesRetriever : Bool} {fault : Finding}
    (h : s.retrieverFault? config m function usesRetriever = some fault) :
    fault.diagnostic.severity = .error := by
  obtain ⟨e, -, rfl⟩ := Option.map_eq_some_iff.mp h
  rfl

theorem severity_initFault {fault : Finding} (h : s.initFault? config m = some fault) :
    fault.diagnostic.severity = .error := by
  unfold initFault? at h
  split at h
  · cases h
    rfl
  · split at h
    · cases h
      rfl
    · exact severity_retrieverFault h
    · exact severity_retrieverFault h

/-- The faults of a model that are errors: the names that intents share, the fault of the init
function, and those of intents without a retriever. -/
theorem mem_faults_and_error {fault : Finding} :
    fault ∈ s.faults config m ∧ fault.diagnostic.severity = .error ↔
      (∃ name ∈ m.sharedNames, .repeatedIntent m.qualifiedName name = fault) ∨
      s.initFault? config m = some fault ∨
      ∃ i ∈ m.intents, m.HasOwnName i ∧
        s.retrieverFault? config m i.decl i.usesRetriever = some fault := by
  simp only [faults, List.mem_append, List.mem_map, Option.mem_toList, List.mem_filterMap,
    List.mem_filter, decide_eq_true_eq, and_assoc, or_assoc]
  constructor
  · rintro ⟨hgeneric | h | h | h, hseverity⟩
    · split at hgeneric
      · cases hgeneric
      · rw [List.mem_singleton] at hgeneric
        subst hgeneric
        cases hseverity
    · exact Or.inl h
    · exact Or.inr (Or.inl h)
    · exact Or.inr (Or.inr h)
  · rintro (h | h | h)
    · refine ⟨Or.inr (Or.inl h), ?_⟩
      obtain ⟨name, -, rfl⟩ := h
      rfl
    · exact ⟨Or.inr (Or.inr (Or.inl h)), severity_initFault h⟩
    · refine ⟨Or.inr (Or.inr (Or.inr h)), ?_⟩
      obtain ⟨i, -, -, hfault⟩ := h
      exact severity_retrieverFault hfault

/-- There are errors about a model exactly when its unit lacks a wrapper. -/
theorem Accounts.hasErrors_iff (h : Accounts s config m u ds) (hs : Functions s m) :
    Diagnostics.hasErrors ds = true ↔ LacksWrapper s config m u := by
  have herrors : Diagnostics.hasErrors ds = true ↔
      ∃ fault, fault ∈ s.faults config m ∧ fault.diagnostic.severity = .error := by
    rw [Diagnostics.hasErrors_iff, h.diagnostics]
    simp only [List.mem_map, exists_exists_and_eq_and]
  have hnames : (∃ name, name ∈ m.sharedNames) ↔ ∃ i ∈ m.intents, ¬ m.HasOwnName i := by
    constructor
    · rintro ⟨name, hname⟩
      obtain ⟨i, hi, rfl⟩ := List.mem_map.mp
        (List.mem_eraseDups.mp (List.mem_filter.mp hname).1)
      exact ⟨i, hi, (Model.mem_sharedNames hi).mp hname⟩
    · rintro ⟨i, hi, hown⟩
      exact ⟨i.name, (Model.mem_sharedNames hi).mpr hown⟩
  have hinit : u.init = none ↔ ∃ fault, s.initFault? config m = some fault := by
    rw [← Option.isSome_iff_exists, ← Option.not_isSome_iff_eq_none, ← h.initFault,
      Option.isSome_iff_ne_none]
  rw [herrors, LacksWrapper, hinit]
  constructor
  · rintro ⟨fault, hfault⟩
    rcases mem_faults_and_error.mp hfault with ⟨name, hname, -⟩ | hfault | ⟨i, hi, -, hfault⟩
    · obtain ⟨i, hi, hown⟩ := hnames.mp ⟨name, hname⟩
      refine Or.inr ⟨i, hi, fun w hw hwraps => hown ?_⟩
      exact ((h.wraps_iff hs hi).mp ⟨w, hw, hwraps⟩).1
    · exact Or.inl ⟨fault, hfault⟩
    · refine Or.inr ⟨i, hi, fun w _ hwraps => ?_⟩
      have hsome := Option.isSome_iff_exists.mpr ⟨fault, hfault⟩
      exact (retrieverFault?_isSome hs hi config).mp hsome (hwraps.served hs hi)
  · rintro (⟨fault, hfault⟩ | ⟨i, hi, hlacks⟩)
    · exact ⟨fault, mem_faults_and_error.mpr (Or.inr (Or.inl hfault))⟩
    · by_cases hown : m.HasOwnName i
      · have hserved : ¬ s.Served config m i.decl i.usesRetriever := by
          intro hserved
          obtain ⟨w, hw, hwraps⟩ := (h.wraps_iff hs hi).mpr ⟨hown, hserved⟩
          exact hlacks w hw hwraps
        obtain ⟨fault, hfault⟩ := Option.isSome_iff_exists.mp
          ((retrieverFault?_isSome hs hi config).mpr hserved)
        exact ⟨fault, mem_faults_and_error.mpr (Or.inr (Or.inr ⟨i, hi, hown, hfault⟩))⟩
      · obtain ⟨name, hname⟩ := hnames.mpr ⟨i, hi, hown⟩
        exact ⟨_, mem_faults_and_error.mpr (Or.inl ⟨name, hname, rfl⟩)⟩

/-! ## The account of a generation -/

theorem units_generate (s : Snapshot) (config : Config) :
    (s.generate config).units = (s.models config).map fun m => (s.unit config m).1 :=
  List.map_map

theorem diagnostics_generate (s : Snapshot) (config : Config) :
    (s.generate config).diagnostics =
      (s.models config).flatMap fun m => (s.unit config m).2.map Finding.diagnostic :=
  List.flatMap_map ..

/-- Each model of a generation goes with its unit. -/
theorem zip_generate (s : Snapshot) (config : Config) :
    (s.generate config).models.zip (s.generate config).units =
      (s.models config).map fun m => (m, (s.unit config m).1) := by
  rw [units_generate, ← List.zip_map', List.map_id']
  rfl

theorem mem_zip_generate : (m, u) ∈ (s.generate config).models.zip (s.generate config).units ↔
    m ∈ s.models config ∧ u = (s.unit config m).1 := by
  rw [zip_generate, List.mem_map]
  constructor
  · rintro ⟨m, hm, ⟨⟩⟩
    exact ⟨hm, rfl⟩
  · rintro ⟨hm, rfl⟩
    exact ⟨m, hm, rfl⟩

/-- What is found on the way to the unit of a model is reported by the generation. -/
theorem diagnostics_subset_generate (hm : m ∈ s.models config) :
    (s.unit config m).2.map Finding.diagnostic ⊆ (s.generate config).diagnostics := by
  intro d hd
  rw [diagnostics_generate, List.mem_flatMap]
  exact ⟨m, hm, hd⟩

/-- Some model of a generation lacks a wrapper in its unit. -/
def SomeLacksWrapper (s : Snapshot) (config : Config) : Prop :=
  ∃ m u, (m, u) ∈ (s.generate config).models.zip (s.generate config).units ∧
    LacksWrapper s config m u

theorem hasErrors_generate (hw : WellNumbered s) (config : Config) :
    Diagnostics.hasErrors (s.generate config).diagnostics = true ↔ s.SomeLacksWrapper config := by
  have hmodel : ∀ m ∈ s.models config,
      (Diagnostics.hasErrors ((s.unit config m).2.map Finding.diagnostic) = true ↔
        LacksWrapper s config m (s.unit config m).1) := fun m hm =>
    (accounts_unit (hw.functions hm) config).hasErrors_iff (hw.functions hm)
  have herrors : Diagnostics.hasErrors (s.generate config).diagnostics = true ↔
      ∃ m ∈ s.models config,
        Diagnostics.hasErrors ((s.unit config m).2.map Finding.diagnostic) = true := by
    rw [diagnostics_generate]
    simp only [Diagnostics.hasErrors_iff, List.mem_flatMap]
    exact ⟨fun ⟨d, ⟨m, hm, hd⟩, he⟩ => ⟨m, hm, d, hd, he⟩,
      fun ⟨m, hm, d, hd, he⟩ => ⟨d, ⟨m, hm, hd⟩, he⟩⟩
  rw [herrors, SomeLacksWrapper]
  constructor
  · rintro ⟨m, hm, he⟩
    exact ⟨m, _, mem_zip_generate.mpr ⟨hm, rfl⟩, (hmodel m hm).mp he⟩
  · rintro ⟨m, u, hmu, hlacks⟩
    obtain ⟨hm, rfl⟩ := mem_zip_generate.mp hmu
    exact ⟨m, hm, (hmodel m hm).mpr hlacks⟩

/-! ## Checking -/

/-- What is loaded on a tree of files. -/
abbrev Loading (α : Type) := ExceptT Error (StateM FileTree) α

/-- A snapshot that is loaded is the snapshot of some files. -/
theorem exists_files_of_load {path : String} {file : Option String} {t t' : FileTree}
    {project : Project} (h : (Project.load path file : Loading Project).run t =
      (.ok project, t')) : ∃ files, ofFiles files = .ok project.snapshot := by
  unfold Project.load at h
  obtain ⟨directory, _, -, h⟩ := FileTree.exists_of_run_bind h
  obtain ⟨config, _, -, h⟩ := FileTree.exists_of_run_bind h
  obtain ⟨s, _, hs, h⟩ := FileTree.exists_of_run_bind h
  cases h
  unfold Snapshot.load at hs
  obtain ⟨files, _, -, hs⟩ := FileTree.exists_of_run_bind hs
  refine ⟨files, ?_⟩
  rcases hfiles : ofFiles files with e | s'
  · rw [hfiles] at hs
    cases hs
  · rw [hfiles] at hs
    cases hs
    rfl

/-- The check of a snapshot ends with 1 when it cannot be loaded or when there are errors. -/
theorem exitCode_check (path : String) (file : Option String) (t : FileTree) :
    ((Command.run file (.check path) : StateM FileTree Outcome).run t).1.exitCode =
      match ((Project.load path file : Loading Project).run t).1 with
      | .error _ => 1
      | .ok project =>
        if Diagnostics.hasErrors (project.snapshot.generate project.config).diagnostics then 1
        else 0 := by
  unfold Command.run Command.runCheck
  rcases h : (Project.load path file : Loading Project).run t with ⟨e | project, t'⟩
  · have hrun : StateT.run (Project.load (m := StateM FileTree) path file).run t =
        (Except.error e, t') := h
    simp only [StateT.run_bind, hrun]
    rfl
  · have hrun : StateT.run (Project.load (m := StateM FileTree) path file).run t =
        (Except.ok project, t') := h
    simp only [StateT.run_bind, hrun]
    rfl

/-- The check of what is at a path fails: nothing can be loaded there, or some model lacks a
wrapper. -/
def CheckFails (path : String) (file : Option String) (t : FileTree) : Prop :=
  match ((Project.load path file : Loading Project).run t).1 with
  | .error _ => True
  | .ok project => project.snapshot.SomeLacksWrapper project.config

theorem exitCode_check_eq_one (path : String) (file : Option String) (t : FileTree) :
    ((Command.run file (.check path) : StateM FileTree Outcome).run t).1.exitCode = 1 ↔
      CheckFails path file t := by
  rw [exitCode_check, CheckFails]
  rcases h : (Project.load path file : Loading Project).run t with ⟨e | project, t'⟩
  · simp
  · obtain ⟨files, hfiles⟩ := exists_files_of_load h
    have herrors := hasErrors_generate (lists_ofFiles hfiles).wellNumbered project.config
    dsimp only
    rw [← herrors]
    split
    · rename_i hyes
      exact ⟨fun _ => hyes, fun _ => rfl⟩
    · rename_i hno
      exact ⟨fun h => absurd h (by decide), fun h => absurd h hno⟩

/-! ## The law of the account -/

/-- No wrapper is left out without an error, and no error stands without a wrapper that is left
out. Every model of a generation has a unit and diagnostics that account for each of its functions,
and the diagnostics of all models in their order are those of the generation. So there are errors
exactly when some model lacks a wrapper, and only then does the check of a snapshot fail. -/
theorem no_wrapper_is_left_out_silently {files : List SourceFile} (hs : ofFiles files = .ok s)
    (config : Config) :
    (∃ accounts : List (WrapperUnit × Diagnostics),
      accounts.map (·.1) = (s.generate config).units ∧
      accounts.flatMap (·.2) = (s.generate config).diagnostics ∧
      List.Forall₂ (fun m account => Accounts s config m account.1 account.2)
        (s.generate config).models accounts) ∧
    (Diagnostics.hasErrors (s.generate config).diagnostics = true ↔ s.SomeLacksWrapper config) ∧
    ∀ path file t, ((Command.run file (.check path) : StateM FileTree Outcome).run t).1.exitCode = 1
      ↔ CheckFails path file t := by
  have hw : WellNumbered s := (lists_ofFiles hs).wellNumbered
  refine ⟨⟨(s.models config).map fun m =>
    ((s.unit config m).1, (s.unit config m).2.map Finding.diagnostic), ?_, ?_, ?_⟩,
    hasErrors_generate hw config, exitCode_check_eq_one⟩
  · rw [units_generate, List.map_map]
    rfl
  · rw [diagnostics_generate, List.flatMap_map]
  · refine List.forall₂_map_right_iff.mpr (List.forall₂_same.mpr fun m hm => ?_)
    exact accounts_unit (hw.functions hm) config

/-- A generic model with two intents of one name, one that finds no retriever, one that is in order,
and an init function that needs an instance. -/
def storeFile : SourceFile where
  path := "app/Store.kt"
  package := "app"
  declarations :=
    let names : AnnotationNames := {}
    let store : TypeRef := .starProjected "app.Store" 1
    [Node.classNamed "Store" |>.annotated { name := names.model } |>.withTypeParameter "T"
      |>.withMember (Node.functionNamed "open" |>.annotated { name := names.init }
        |>.returning store)
      |>.withMember (Node.functionNamed "clear" |>.annotated { name := names.intent })
      |>.withMember (Node.functionNamed "keep" |>.annotated { name := names.intent }),
    Node.functionNamed "clear" |>.annotated { name := names.intent } |>.onReceiver store,
    Node.functionNamed "fetch"
      |>.annotated { name := names.intent, arguments := [{ value := .flag true }] }
      |>.withParameter "store" store]

theorem the_store_is_accounted_for : ∃ s, ofFiles [storeFile] = .ok s ∧
    (s.generate {}).units.map (fun u => u.wrappers.map (·.name)) = [["keepStore"]] ∧
    (s.generate {}).diagnostics = [
      (Finding.genericModel "app.Store" "Store").diagnostic,
      (Finding.repeatedIntent "app.Store" "clear").diagnostic,
      (Finding.initNotStatic "app.Store.open" "app.Store").diagnostic,
      (Finding.retrieverMissing "app.fetch").diagnostic] ∧ s.SomeLacksWrapper {} := by
  obtain ⟨s, hs, hunits, hdiagnostics⟩ := exists_ofFiles_singleton storeFile (fun s =>
    (s.generate {}).units.map (fun u => u.wrappers.map (·.name)) = [["keepStore"]] ∧
    (s.generate {}).diagnostics = [
      (Finding.genericModel "app.Store" "Store").diagnostic,
      (Finding.repeatedIntent "app.Store" "clear").diagnostic,
      (Finding.initNotStatic "app.Store.open" "app.Store").diagnostic,
      (Finding.retrieverMissing "app.fetch").diagnostic]) (by decide +kernel)
  have herrors : Diagnostics.hasErrors (s.generate {}).diagnostics = true := by
    rw [hdiagnostics]
    decide
  exact ⟨s, hs, hunits, hdiagnostics, (no_wrapper_is_left_out_silently hs {}).2.1.mp herrors⟩

end Snapshot

end BoundaryGen
