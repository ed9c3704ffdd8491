-- The mark in the keys of intents. A key with the mark is read as an intent that gives a handle,
-- under the name behind the mark. So the intents of a model are read back as they are unless one
-- that gives no handle has a name that starts with the mark.
import Mathlib
import BoundaryGen.Proofs.Manifest.Wrappers

namespace BoundaryGen

open BindingModel (splitKey)

/-! ## Keys and the mark -/

/-- The name of an intent is not taken for a key with the mark. -/
def Intent.TrulyMarked (i : Intent) : Prop :=
  i.isSuspending = false → ¬ suspendMark.toList <+: i.name.toList

instance (i : Intent) : Decidable i.TrulyMarked :=
  inferInstanceAs (Decidable (i.isSuspending = false → ¬ suspendMark.toList <+: i.name.toList))

theorem splitKey_marked (name : String) : splitKey (suspendMark ++ name) = (name, true) := by
  have hprefix : suspendMark.toList <+: (suspendMark ++ name).toList := by
    rw [String.toList_append]
    apply List.prefix_append
  unfold splitKey
  dsimp only
  rw [if_pos (List.isPrefixOf_iff_prefix.mpr hprefix), String.toList_append, List.drop_left,
    String.ofList_toList]

theorem splitKey_unmarked {key : String} (h : ¬ suspendMark.toList <+: key.toList) :
    splitKey key = (key, false) := by
  unfold splitKey
  dsimp only
  rw [if_neg (mt List.isPrefixOf_iff_prefix.mp h)]

/-- Only a key without the mark is read as that of an intent without a handle. -/
theorem unmarked_of_splitKey {key name : String} (h : splitKey key = (name, false)) :
    ¬ suspendMark.toList <+: name.toList := by
  unfold splitKey at h
  dsimp only at h
  split at h
  · cases h
  · rename_i hprefix
    cases h
    exact mt List.isPrefixOf_iff_prefix.mpr hprefix

theorem Intent.TrulyMarked.splitKey {i : Intent} (h : i.TrulyMarked) :
    splitKey i.manifestKey = (i.name, i.isSuspending) := by
  unfold Intent.manifestKey
  cases hwaits : i.isSuspending with
  | true => exact splitKey_marked i.name
  | false => exact splitKey_unmarked (h hwaits)

namespace Model

/-! ## What there is to read back -/

/-- The intents with a name of their own: the name of each, and whether it gives a handle. -/
def calls (m : Model) : List (String × Bool) :=
  (m.intents.filter fun i => m.HasOwnName i).map fun i => (i.name, i.isSuspending)

variable {m : Model}

theorem calls_eq (m : Model) :
    m.calls = m.distinctIntents.map fun i => (i.name, i.isSuspending) := by
  rw [calls, m.distinctIntents_eq_filter]

/-- Keys that are not mistaken tell the names of their intents. -/
theorem keysTellNames_of_trulyMarked {i j : Intent} (hi : i.TrulyMarked) (hj : j.TrulyMarked)
    (hkey : i.manifestKey = j.manifestKey) : i.name = j.name := by
  have hsplit := hi.splitKey
  rw [hkey, hj.splitKey] at hsplit
  exact (Prod.mk.inj hsplit).1.symm

theorem nodup_manifestKeys_of_trulyMarked (h : ∀ i ∈ m.distinctIntents, i.TrulyMarked) :
    (m.distinctIntents.map Intent.manifestKey).Nodup := by
  have hnames := List.pairwise_map.mp m.nodup_distinctIntents
  apply List.pairwise_map.mpr
  apply hnames.imp_of_mem
  intro i j hi hj hne hkey
  exact hne (keysTellNames_of_trulyMarked (h i hi) (h j hj) hkey)

end Model

/-! ## What is read back -/

/-- The intents as the other side sees them. -/
def BindingModel.calls (b : BindingModel) : List (String × Bool) :=
  b.intents.map fun i => (i.name, i.isAsync)

/-- An intent is read from its key. -/
theorem call_of_intentOf {resolve : Resolver} {entry : String × ParameterMap} {i : BindingIntent}
    (h : BindingModel.intentOf resolve entry = .ok i) : (i.name, i.isAsync) = splitKey entry.1 := by
  rcases hkey : splitKey entry.1 with ⟨name, isAsync⟩
  rw [BindingModel.intentOf, hkey] at h
  obtain ⟨parameters, -, h⟩ := bind_eq_ok h
  cases h
  rfl

theorem calls_of_mapM {resolve : Resolver} {entries : List (String × ParameterMap)}
    {intents : List BindingIntent}
    (h : entries.mapM (BindingModel.intentOf resolve) = .ok intents) :
    intents.map (fun i => (i.name, i.isAsync)) = entries.map fun e => splitKey e.1 := by
  induction entries generalizing intents with
  | nil =>
    cases h
    rfl
  | cons entry rest ih =>
    rw [List.mapM_cons] at h
    obtain ⟨i, hentry, h⟩ := bind_eq_ok h
    obtain ⟨others, hrest, h⟩ := bind_eq_ok h
    cases h
    rw [List.map_cons, List.map_cons, call_of_intentOf hentry, ih hrest]

namespace Snapshot

variable {s : Snapshot} {m : Model}

/-- The manifest of one model is read as one model, each intent from its key. -/
theorem exists_of_bindings_manifest {resolve : Resolver} {bs : List BindingModel}
    (h : (s.manifest [m]).bindings resolve = .ok bs) :
    ∃ b, bs = [b] ∧ b.calls = (s.modelData m).intents.keys.map splitKey := by
  have hentries : (s.manifest [m]).models.entries = [(m.qualifiedName, s.modelData m)] :=
    OrderedMap.entries_ofList (List.nodup_singleton _)
  unfold Manifest.bindings at h
  rw [hentries, List.mapM_cons, List.mapM_nil] at h
  obtain ⟨b, hb, h⟩ := bind_eq_ok h
  obtain ⟨intents, hintents, hb⟩ := bind_eq_ok hb
  obtain ⟨values, -, hb⟩ := bind_eq_ok hb
  obtain ⟨init, -, hb⟩ := bind_eq_ok hb
  cases h
  cases hb
  refine ⟨_, rfl, ?_⟩
  rw [OrderedMap.keys, List.map_map]
  exact calls_of_mapM hintents

/-- The other side sees the intents of a model as they are. -/
structure SeesIntents (m : Model) (b : BindingModel) : Prop where
  /-- It sees the intents with a name of their own, in their order. -/
  calls : b.calls = m.calls
  /-- None of these hides another one under its key. -/
  keys : ∀ i ∈ m.intents, m.HasOwnName i → ∀ j ∈ m.intents, m.HasOwnName j →
    i.manifestKey = j.manifestKey → i.name = j.name
  /-- It waits for none of these that gives no handle. -/
  handles : ∀ i ∈ m.intents, m.HasOwnName i → i.isSuspending = false → (i.name, true) ∉ b.calls

theorem seesIntents_of_trulyMarked {b : BindingModel}
    (hb : b.calls = (s.modelData m).intents.keys.map splitKey)
    (h : ∀ i ∈ m.intents, m.HasOwnName i → i.TrulyMarked) : SeesIntents m b := by
  have hdistinct : ∀ i ∈ m.distinctIntents, i.TrulyMarked := by
    intro i hi
    obtain ⟨hi, hown⟩ := Model.mem_distinctIntents.mp hi
    exact h i hi hown
  have hcalls : b.calls = m.calls := by
    rw [hb, OrderedMap.keys,
      s.intents_modelData_of_nodup (Model.nodup_manifestKeys_of_trulyMarked hdistinct),
      List.map_map, List.map_map, m.calls_eq]
    exact List.map_congr_left fun i hi => (hdistinct i hi).splitKey
  refine ⟨hcalls, ?_, ?_⟩
  · intro i hi hown j hj hown' hkey
    exact Model.keysTellNames_of_trulyMarked (h i hi hown) (h j hj hown') hkey
  · intro i hi hown hwaits hmem
    rw [hcalls] at hmem
    obtain ⟨j, hj, hji⟩ := List.mem_map.mp hmem
    obtain ⟨hname, hwaits'⟩ := Prod.mk.inj hji
    have heq : i = j := hown.eq_of_name_eq hi (List.mem_filter.mp hj).1 hname.symm
    rw [← heq, hwaits] at hwaits'
    cases hwaits'

/-- An intent that gives no handle is seen as one only under a name without the mark. -/
theorem trulyMarked_of_calls {b : BindingModel}
    (hb : b.calls = (s.modelData m).intents.keys.map splitKey) (h : b.calls = m.calls) :
    ∀ i ∈ m.intents, m.HasOwnName i → i.TrulyMarked := by
  intro i hi hown hwaits
  have hmem : (i.name, false) ∈ m.calls := by
    rw [← hwaits]
    exact List.mem_map_of_mem (List.mem_filter.mpr ⟨hi, decide_eq_true hown⟩)
  rw [← h, hb] at hmem
  obtain ⟨key, -, hkey⟩ := List.mem_map.mp hmem
  exact unmarked_of_splitKey hkey

/-! ## The law of the mark -/

/-- When the manifest of a model is read back, the other side sees the intents of the model as they
are exactly when no intent that gives no handle has a name of its own that starts with the mark. -/
theorem unmarked_names_are_read_back {resolve : Resolver} {bs : List BindingModel}
    (h : (s.manifest [m]).bindings resolve = .ok bs) :
    ∃ b, bs = [b] ∧
      (SeesIntents m b ↔ ∀ i ∈ m.intents, m.HasOwnName i → i.TrulyMarked) := by
  obtain ⟨b, rfl, hb⟩ := exists_of_bindings_manifest h
  refine ⟨b, rfl, ?_, ?_⟩
  · intro hsees
    exact trulyMarked_of_calls hb hsees.calls
  · intro hmarked
    exact seesIntents_of_trulyMarked hb hmarked

/-- A model with some intents that give a handle and some that give none. -/
def doorFile (waiting others : List String) : SourceFile where
  path := "app/Door.kt"
  package := "app"
  declarations :=
    let names : AnnotationNames := {}
    let intentNamed (name : String) : Node :=
      Node.functionNamed name |>.annotated { name := names.intent }
    let door : Node := Node.classNamed "Door" |>.annotated { name := names.model }
    [(waiting.map fun name => (intentNamed name).withModifier .suspend).foldl Node.withMember
      ((others.map intentNamed).foldl Node.withMember door)]

theorem the_door_is_read_back : ∃ s m b, ofFiles [doorFile ["open", "SUSPEND_lock"] ["close"]] =
      .ok s ∧ m ∈ s.models {} ∧ (s.manifest [m]).bindings anyResolver = .ok [b] ∧
    m.calls = [("close", false), ("open", true), ("SUSPEND_lock", true)] ∧ SeesIntents m b := by
  obtain ⟨s, hs, hcalls, hmodels⟩ :=
    exists_ofFiles_singleton (doorFile ["open", "SUSPEND_lock"] ["close"]) (fun s =>
      (s.models {}).map (·.calls) =
        [[("close", false), ("open", true), ("SUSPEND_lock", true)]] ∧
      ∀ m ∈ s.models {}, ((s.manifest [m]).bindings anyResolver).isOk = true ∧
        ∀ i ∈ m.intents, m.HasOwnName i → i.TrulyMarked) (by decide +kernel)
  have hdoor : [("close", false), ("open", true), ("SUSPEND_lock", true)] ∈
      (s.models {}).map (·.calls) := by
    rw [hcalls]
    exact List.mem_cons_self
  obtain ⟨m, hm, hmcalls⟩ := List.mem_map.mp hdoor
  obtain ⟨hok, hmarked⟩ := hmodels m hm
  rcases hbindings : (s.manifest [m]).bindings anyResolver with e | bs
  · rw [hbindings] at hok
    cases hok
  · obtain ⟨b, rfl, hsees⟩ := unmarked_names_are_read_back hbindings
    exact ⟨s, m, b, hs, hm, hbindings, hmcalls, hsees.mpr hmarked⟩

/-- An intent that gives no handle is read as one that gives a handle, under a name that is not its
own; and it hides an intent that gives one, when that has the name. -/
theorem the_mark_is_mistaken :
    (∃ s, ofFiles [doorFile ["open"] ["SUSPEND_close"]] = .ok s ∧
      (s.models {}).map (·.calls) = [[("SUSPEND_close", false), ("open", true)]] ∧
      ∀ m ∈ s.models {},
        ((s.manifest [m]).bindings anyResolver).toOption.map (fun bs => bs.map (·.calls)) =
          some [[("close", true), ("open", true)]]) ∧
    (∃ s, ofFiles [doorFile ["open"] ["SUSPEND_open"]] = .ok s ∧
      (s.models {}).map (·.calls) = [[("SUSPEND_open", false), ("open", true)]] ∧
      ∀ m ∈ s.models {},
        ((s.manifest [m]).bindings anyResolver).toOption.map (fun bs => bs.map (·.calls)) =
          some [[("open", true)]]) := by
  constructor
  · exact exists_ofFiles_singleton _ _ (by decide +kernel)
  · exact exists_ofFiles_singleton _ _ (by decide +kernel)

end Snapshot

end BoundaryGen
