-- What the manifest lists against what is generated. An entry stands for an intent
-- with a wrapper, or for one that got none for want of a retriever, and then its error
-- is reported. So after a run without errors the entries are the wrappers one by one.
import Mathlib
import BoundaryGen.Proofs.Generation.Accounting
import BoundaryGen.Proofs.Manifest.Readback

namespace BoundaryGen

/-! ## Keys -/

namespace Model

/-- Of the intents with a name of their own, none of another name has the key of this one. -/
def HasOwnKey (m : Model) (i : Intent) : Prop :=
  ∀ j ∈ m.intents, m.HasOwnName j → j.manifestKey = i.manifestKey → j.name = i.name

/-- The key of an intent with a name of its own tells the name. -/
def KeysTellNames (m : Model) : Prop := ∀ i ∈ m.intents, m.HasOwnKey i

instance (m : Model) : DecidablePred m.HasOwnKey := fun i =>
  inferInstanceAs (Decidable (∀ j ∈ m.intents, m.HasOwnName j → _ → j.name = i.name))

instance (m : Model) : Decidable m.KeysTellNames :=
  inferInstanceAs (Decidable (∀ i ∈ m.intents, m.HasOwnKey i))

variable {m : Model}

theorem mem_distinctIntents {i : Intent} :
    i ∈ m.distinctIntents ↔ i ∈ m.intents ∧ m.HasOwnName i := by
  rw [m.distinctIntents_eq_filter, List.mem_filter, decide_eq_true_eq]

theorem KeysTellNames.nodup (h : m.KeysTellNames) :
    (m.distinctIntents.map Intent.manifestKey).Nodup := by
  have hnames := List.pairwise_map.mp m.nodup_distinctIntents
  apply List.pairwise_map.mpr
  apply hnames.imp_of_mem
  intro i j hi hj hne hkey
  obtain ⟨hi, hown⟩ := mem_distinctIntents.mp hi
  have hj := mem_intents_of_mem_distinctIntents hj
  exact hne (h j hj i hi hown hkey)

/-- The key of an intent is that of an intent with a name of its own only if it has one. -/
theorem KeysTellNames.hasOwnName (h : m.KeysTellNames) {i : Intent} (hi : i ∈ m.intents)
    (hkey : i.manifestKey ∈ m.distinctIntents.map Intent.manifestKey) : m.HasOwnName i := by
  obtain ⟨j, hj, hji⟩ := List.mem_map.mp hkey
  obtain ⟨hj, hown⟩ := mem_distinctIntents.mp hj
  have hname : j.name = i.name := h i hi j hj hown hji
  rw [HasOwnName, ← hname]
  exact hown

end Model

/-! ## What a generation holds -/

namespace Generation

/-- What is listed of each model: the keys of its intents, the names of the init parameters, and
whether the init function waits. -/
def listed (g : Generation) : List (String × List String × List String × Bool) :=
  g.manifest.models.entries.map fun (name, data) =>
    (name, data.intents.keys, data.init.keys, data.isInitSuspend)

/-- What is wrapped of each model: the names of the wrappers of its intents, and of the wrapper of
its init function. -/
def wrapped (g : Generation) : List (String × List String × Option String) :=
  g.units.map fun u => (u.model, u.intents.map (·.name), u.init.map (·.name))

end Generation

namespace Snapshot

variable {s : Snapshot} {config : Config} {m : Model} {u : WrapperUnit} {ds : Diagnostics}

theorem keys_modelData (s : Snapshot) (h : m.KeysTellNames) :
    (s.modelData m).intents.keys = m.distinctIntents.map Intent.manifestKey := by
  rw [OrderedMap.keys, s.intents_modelData_of_nodup h.nodup, List.map_map]
  rfl

/-- Models whose names stand once are found under them. -/
theorem get?_manifest (s : Snapshot) {models : List Model}
    (hn : (models.map (·.qualifiedName)).Nodup) (hm : m ∈ models) :
    (s.manifest models).models.get? m.qualifiedName = some (s.modelData m) := by
  apply OrderedMap.get?_insertAll_of_mem
  · exact List.mem_map_of_mem (f := fun m => (m.qualifiedName, s.modelData m)) hm
  · intro data hdata
    obtain ⟨m', hm', heq⟩ := List.mem_map.mp hdata
    obtain ⟨hname, rfl⟩ := Prod.mk.inj heq
    rw [List.inj_on_of_nodup_map hn hm' hm hname]

/-! ## The manifest against the unit -/

/-- An intent with a name of its own that has no wrapper, and whose error is reported. -/
structure LeftOut (s : Snapshot) (config : Config) (m : Model) (u : WrapperUnit)
    (ds : Diagnostics) (i : Intent) : Prop where
  ownName : m.HasOwnName i
  unwrapped : ∀ w ∈ u.intents, ¬ s.WrapsIntent config m i w
  reported : ∃ fault, s.retrieverFault? config m i.decl i.usesRetriever = some fault ∧
    fault.diagnostic ∈ ds

/-- An init function that has no wrapper, and whose error is reported. -/
structure InitLeftOut (s : Snapshot) (config : Config) (m : Model) (u : WrapperUnit)
    (ds : Diagnostics) : Prop where
  unwrapped : u.init = none
  reported : ∃ fault, s.initFault? config m = some fault ∧ fault.diagnostic ∈ ds

/-- The key stands for the intent that the wrapper is made for. -/
def KeyWraps (s : Snapshot) (config : Config) (m : Model) (key : String) (w : Wrapper) : Prop :=
  ∃ i ∈ m.intents, i.manifestKey = key ∧ s.WrapsIntent config m i w

/-- The entry of a model describes its unit, up to what is left out and reported. -/
structure Describes (s : Snapshot) (config : Config) (m : Model) (u : WrapperUnit)
    (ds : Diagnostics) (data : ModelData) : Prop where
  /-- Listed are the intents that have a wrapper, and those that are left out. -/
  listed : ∀ i ∈ m.intents, i.manifestKey ∈ data.intents.keys ↔
    (∃ w ∈ u.intents, s.WrapsIntent config m i w) ∨ s.LeftOut config m u ds i
  /-- The wrappers belong to keys of the entry, each to one of its own, in their order. -/
  wrapped : ∃ keys, keys.Sublist data.intents.keys ∧
    List.Forall₂ (s.KeyWraps config m) keys u.intents
  /-- What is said of an init function is said of one that has a wrapper or is left out. -/
  init : data.init.entries ≠ [] ∨ data.isInitSuspend = true → ∃ i, m.init = some i ∧
    ((∃ w, u.init = some w ∧ s.WrapsInit config m i w) ∨ s.InitLeftOut config m u ds)

/-- Keys of intents go with wrappers as the intents do. -/
theorem keyWraps_of_wrapsIntent {intents : List Intent} {ws : List Wrapper}
    (hi : ∀ i ∈ intents, i ∈ m.intents)
    (h : List.Forall₂ (s.WrapsIntent config m) intents ws) :
    List.Forall₂ (s.KeyWraps config m) (intents.map Intent.manifestKey) ws := by
  induction h with
  | nil => exact .nil
  | @cons i w intents ws hwraps _ ih =>
    apply List.Forall₂.cons
    · exact ⟨i, hi i List.mem_cons_self, rfl, hwraps⟩
    · apply ih
      intro j hj
      exact hi j (List.mem_cons_of_mem i hj)

section
variable {ds' : Diagnostics} (h : Accounts s config m u ds) (hds : ds ⊆ ds')
include h hds

/-- An intent with a name of its own has a wrapper, or it is left out. -/
theorem Accounts.wraps_or_leftOut (hs : Functions s m) {i : Intent} (hi : i ∈ m.intents)
    (hown : m.HasOwnName i) :
    (∃ w ∈ u.intents, s.WrapsIntent config m i w) ∨ s.LeftOut config m u ds' i := by
  by_cases hserved : s.Served config m i.decl i.usesRetriever
  · exact Or.inl ((h.wraps_iff hs hi).mpr ⟨hown, hserved⟩)
  · have hsome := (retrieverFault?_isSome hs hi config).mpr hserved
    obtain ⟨fault, hfault⟩ := Option.isSome_iff_exists.mp hsome
    have hmem : fault ∈ s.faults config m :=
      (mem_faults_and_error.mpr (Or.inr (Or.inr ⟨i, hi, hown, hfault⟩))).1
    refine Or.inr ⟨hown, ?_, fault, hfault, ?_⟩
    · intro w _ hwraps
      exact hserved (hwraps.served hs hi)
    · apply hds
      rw [h.diagnostics]
      exact List.mem_map_of_mem hmem

/-- The init function of a model has a wrapper, or it is left out. -/
theorem Accounts.wrapsInit_or_leftOut {i : Init} (hi : m.init = some i) :
    (∃ w, u.init = some w ∧ s.WrapsInit config m i w) ∨ s.InitLeftOut config m u ds' := by
  rcases hinit : u.init with _ | w
  · have hsome : s.initFault? config m ≠ none := by
      intro hnone
      have hwrapped := h.initFault.mp hnone
      rw [hinit] at hwrapped
      cases hwrapped
    obtain ⟨fault, hfault⟩ := Option.ne_none_iff_exists'.mp hsome
    have hmem : fault ∈ s.faults config m :=
      (mem_faults_and_error.mpr (Or.inr (Or.inl hfault))).1
    refine Or.inr ⟨hinit, fault, hfault, ?_⟩
    apply hds
    rw [h.diagnostics]
    exact List.mem_map_of_mem hmem
  · obtain ⟨j, hj, hwraps⟩ := h.wrapsInit w hinit
    rw [hi] at hj
    cases hj
    exact Or.inl ⟨w, rfl, hwraps⟩

/-- The data that the manifest holds of a model describe the unit that accounts for it. -/
theorem Accounts.describes (hs : Functions s m) (hkeys : m.KeysTellNames) :
    Describes s config m u ds' (s.modelData m) where
  listed i hi := by
    rw [s.keys_modelData hkeys]
    constructor
    · intro hkey
      exact h.wraps_or_leftOut hds hs hi (hkeys.hasOwnName hi hkey)
    · intro hcases
      have hown : m.HasOwnName i := by
        rcases hcases with hwraps | hout
        · exact ((h.wraps_iff hs hi).mp hwraps).1
        · exact hout.ownName
      exact List.mem_map_of_mem (Model.mem_distinctIntents.mpr ⟨hi, hown⟩)
  wrapped := by
    refine ⟨_, ?_, keyWraps_of_wrapsIntent (fun i hi => (List.mem_filter.mp hi).1) h.intents⟩
    rw [s.keys_modelData hkeys, m.distinctIntents_eq_filter]
    apply List.Sublist.map
    apply List.monotone_filter_right
    intro i hi
    exact decide_eq_true (of_decide_eq_true hi).1
  init hinit := by
    rcases hi : m.init with _ | i
    · simp [modelData, hi, OrderedMap.ofList, OrderedMap.insertAll, OrderedMap.empty] at hinit
    · exact ⟨i, rfl, h.wrapsInit_or_leftOut hds hi⟩

end

/-- Where no wrapper is lacking, every intent is listed and wrapped, in its place. -/
theorem Accounts.keyWraps_all (h : Accounts s config m u ds) (hs : Functions s m)
    (hkeys : m.KeysTellNames) (hall : ¬ LacksWrapper s config m u) :
    List.Forall₂ (s.KeyWraps config m) (s.modelData m).intents.keys u.intents := by
  have hok : ∀ i ∈ m.intents, m.HasOwnName i ∧ s.Served config m i.decl i.usesRetriever := by
    intro i hi
    apply (h.wraps_iff hs hi).mp
    by_contra hno
    apply hall
    exact Or.inr ⟨i, hi, fun w hw hwraps => hno ⟨w, hw, hwraps⟩⟩
  -- Neither side leaves an intent out, so that both lists run over all intents of the model.
  have hdistinct : m.distinctIntents = m.intents := by
    rw [m.distinctIntents_eq_filter, List.filter_eq_self]
    intro i hi
    exact decide_eq_true (hok i hi).1
  have hintents := h.intents
  rw [List.filter_eq_self.mpr fun i hi => decide_eq_true (hok i hi)] at hintents
  rw [s.keys_modelData hkeys, hdistinct]
  exact keyWraps_of_wrapsIntent (fun _ hi => hi) hintents

/-! ## The law of the entries -/

/-- The manifest of a generation lists, under the name of each model, the intents that have a
wrapper in the unit of the model, and else only those whose missing retriever the generation
reports; the same holds for what it says of the init function. After a generation without errors
the entries and the wrappers are the same, one by one, and an init function has its wrapper. -/
theorem an_entry_is_wrapped_or_reported {files : List SourceFile} (hs : ofFiles files = .ok s)
    (config : Config) (hn : ((s.generate config).models.map (·.qualifiedName)).Nodup)
    (hmu : (m, u) ∈ (s.generate config).models.zip (s.generate config).units)
    (hkeys : m.KeysTellNames) :
    ∃ data, (s.generate config).manifest.models.get? m.qualifiedName = some data ∧
      Describes s config m u (s.generate config).diagnostics data ∧
      (Diagnostics.hasErrors (s.generate config).diagnostics = false →
        List.Forall₂ (s.KeyWraps config m) data.intents.keys u.intents ∧
          u.init.isSome = true) := by
  have hw : WellNumbered s := (lists_ofFiles hs).wellNumbered
  obtain ⟨hm, rfl⟩ := mem_zip_generate.mp hmu
  have hfunctions := hw.functions hm
  have haccounts := accounts_unit hfunctions config
  refine ⟨s.modelData m, s.get?_manifest hn hm, ?_, ?_⟩
  · exact haccounts.describes (diagnostics_subset_generate hm) hfunctions hkeys
  · intro hno
    have hall : ¬ LacksWrapper s config m (s.unit config m).1 := by
      intro hlacks
      have herrors := (hasErrors_generate hw config).mpr ⟨m, _, hmu, hlacks⟩
      rw [hno] at herrors
      cases herrors
    refine ⟨haccounts.keyWraps_all hfunctions hkeys hall, ?_⟩
    by_contra hnone
    exact hall (Or.inl (Option.not_isSome_iff_eq_none.mp hnone))

/-- A model with an intent in order, one that finds no retriever, two of one name, and an init
function that needs an instance; and a model that is in order. -/
def feedFile : SourceFile where
  path := "app/Feed.kt"
  package := "app"
  declarations :=
    let names : AnnotationNames := {}
    let feed : TypeRef := { name := "app.Feed" }
    let log : TypeRef := { name := "app.Log" }
    [Node.classNamed "Feed" |>.annotated { name := names.model }
      |>.withMember (Node.functionNamed "clear" |>.annotated { name := names.intent })
      |>.withMember (Node.functionNamed "share" |>.annotated { name := names.intent })
      |>.withMember (Node.functionNamed "poll"
        |>.annotated { name := names.intent, arguments := [{ value := .flag true }] })
      |>.withMember (Node.functionNamed "open" |>.annotated { name := names.init }
        |>.withModifier .suspend |>.withParameter "url" { name := "kotlin.String" }
        |>.returning feed),
    Node.functionNamed "share" |>.annotated { name := names.intent } |>.onReceiver feed,
    Node.classNamed "Log" |>.annotated { name := names.model }
      |>.withMember (Node.companion |>.withMember (Node.functionNamed "start"
        |>.annotated { name := names.init } |>.returning log)),
    Node.functionNamed "add" |>.annotated { name := names.intent } |>.onReceiver log
      |>.withParameter "line" { name := "kotlin.String" }]

theorem the_feed_is_described : ∃ s m u data, ofFiles [feedFile] = .ok s ∧
    (s.generate {}).models.map (·.qualifiedName) = ["app.Feed", "app.Log"] ∧
    (m, u) ∈ (s.generate {}).models.zip (s.generate {}).units ∧ m.qualifiedName = "app.Feed" ∧
    m.KeysTellNames ∧ (s.generate {}).manifest.models.get? m.qualifiedName = some data ∧
    Describes s {} m u (s.generate {}).diagnostics data := by
  obtain ⟨s, hs, hnames, hkeys⟩ := exists_ofFiles_singleton feedFile (fun s =>
    (s.generate {}).models.map (·.qualifiedName) = ["app.Feed", "app.Log"] ∧
    ∀ m ∈ s.models {}, m.KeysTellNames) (by decide +kernel)
  have hn : ((s.generate {}).models.map (·.qualifiedName)).Nodup := by
    rw [hnames]
    decide
  have hfeed : "app.Feed" ∈ (s.generate {}).models.map (·.qualifiedName) := by
    rw [hnames]
    exact List.mem_cons_self
  obtain ⟨m, hm, hname⟩ := List.mem_map.mp hfeed
  have hmu : (m, (s.unit {} m).1) ∈ (s.generate {}).models.zip (s.generate {}).units :=
    mem_zip_generate.mpr ⟨hm, rfl⟩
  obtain ⟨data, hdata, hdescribes, -⟩ :=
    an_entry_is_wrapped_or_reported hs {} hn hmu (hkeys m hm)
  exact ⟨s, m, _, data, hs, hnames, hmu, hname, hkeys m hm, hdata, hdescribes⟩

/-- The entry of the feed lists the intent without a retriever, and says of its init function what
it takes and that it waits. Both have no wrapper. -/
theorem the_feed_lists_more_than_is_wrapped : ∃ s, ofFiles [feedFile] = .ok s ∧
    ((s.generate {}).models.map (·.qualifiedName)).Nodup ∧
    (s.generate {}).listed =
      [("app.Feed", ["clear", "SUSPEND_poll"], ["url"], true), ("app.Log", ["add"], [], false)] ∧
    (s.generate {}).wrapped =
      [("app.Feed", ["clearFeed"], none), ("app.Log", ["addLog"], some "initLog")] :=
  exists_ofFiles_singleton _ _ (by decide +kernel)

end Snapshot

end BoundaryGen
