-- Which functions of a model get a wrapper. Once the name of an intent and the
-- place of an init function are in order, only a retriever that is not found keeps a
-- function from its wrapper, and then its error is reported.
import Mathlib
import BoundaryGen.Proofs.Model.RepeatedNames
import BoundaryGen.Proofs.Snapshot.Listing
import BoundaryGen.Proofs.Wrapper.Unit

namespace BoundaryGen

/-! ## Names -/

namespace Model

/-- No other intent of the model has the name of this one. -/
def HasOwnName (m : Model) (i : Intent) : Prop := (m.intents.map (·.name)).count i.name = 1

instance (m : Model) : DecidablePred m.HasOwnName := fun _ => inferInstanceAs (Decidable (_ = _))

/-- The names that more than one intent of the model has, each once, in the order of first use. -/
def sharedNames (m : Model) : List String :=
  (m.intents.map (·.name)).eraseDups.filter fun n => 1 < (m.intents.map (·.name)).count n

theorem distinctIntents_eq_filter (m : Model) :
    m.distinctIntents = m.intents.filter fun i => m.HasOwnName i := m.distinctIntents_eq

theorem mem_sharedNames {m : Model} {i : Intent} (h : i ∈ m.intents) :
    i.name ∈ m.sharedNames ↔ ¬ m.HasOwnName i := by
  have hmem : i.name ∈ m.intents.map (·.name) := List.mem_map_of_mem h
  have hpos : 0 < (m.intents.map (·.name)).count i.name := List.count_pos_iff.mpr hmem
  simp only [sharedNames, HasOwnName, List.mem_filter, List.mem_eraseDups, hmem, true_and,
    decide_eq_true_eq]
  omega

theorem repeatedNames_eq_sharedNames (m : Model) : repeatedNames m.intents = m.sharedNames := by
  rw [repeatedNames_eq, sharedNames]
  refine List.filter_congr fun n hn => ?_
  have hpos : 0 < (m.intents.map (·.name)).count n :=
    List.count_pos_iff.mpr (List.mem_eraseDups.mp hn)
  rw [decide_eq_decide]
  omega

/-- Of two intents with one name that no other has, both are the same. -/
theorem HasOwnName.eq_of_name_eq {m : Model} {i j : Intent} (h : m.HasOwnName i)
    (hi : i ∈ m.intents) (hj : j ∈ m.intents) (hname : i.name = j.name) : i = j := by
  have hmem : ∀ k ∈ m.intents, k.name = i.name →
      k ∈ m.intents.filter fun k => k.name = i.name := by
    intro k hk hkn
    exact List.mem_filter.mpr ⟨hk, decide_eq_true hkn⟩
  have hlength : (m.intents.filter fun k => k.name = i.name).length = 1 := by
    rw [← List.countP_eq_length_filter, ← h, List.count, List.countP_map]
    exact List.countP_congr fun k _ => by simp
  obtain ⟨only, honly⟩ := List.length_eq_one_iff.mp hlength
  have hi' := hmem i hi rfl
  have hj' := hmem j hj hname.symm
  rw [honly, List.mem_singleton] at hi' hj'
  rw [hi', hj']

end Model

namespace Snapshot

variable {s : Snapshot} {config : Config} {m : Model}

/-! ## Functions of a model are declared -/

/-- What is declared stands under its number. -/
theorem WellNumbered.get?_of_declares (hw : WellNumbered s) {id : DeclId}
    {name qualifiedName : String} {parameters : List Parameter} {returnType : Option TypeRef}
    (h : s.Declares id name qualifiedName parameters returnType) : (s.get? id).isSome := by
  obtain ⟨d, hd, -, -, rfl, -⟩ := h
  obtain ⟨i, hi⟩ := get?_of_mem (Array.mem_toList_iff.mpr hd)
  rw [hw.id_eq hi, hi]
  rfl

/-- A model of a snapshot stands under its number, and so does each function of it. -/
structure Functions (s : Snapshot) (m : Model) : Prop where
  model : (s.get? m.decl).isSome
  init : ∀ i, m.init = some i → (s.get? i.decl).isSome
  intents : ∀ i ∈ m.intents, (s.get? i.decl).isSome

theorem WellNumbered.functions (hw : WellNumbered s) (hm : m ∈ s.models config) :
    Functions s m := by
  obtain ⟨id, -, hid⟩ := List.mem_filterMap.mp hm
  refine ⟨?_, fun i hi => hw.get?_of_declares (declares_of_init hid hi),
    fun i hi => hw.get?_of_declares (declares_of_mem_intents hid hi)⟩
  simp only [model?, Option.bind_eq_bind, Option.bind_eq_some_iff, Option.pure_def,
    Option.some.injEq] at hid
  obtain ⟨d, hd, rfl⟩ := hid
  rw [hd]
  rfl

/-! ## Retrievers -/

/-- The search for the retriever of a function of a model, when both are declared. -/
def retrieverOf? (s : Snapshot) (config : Config) (m : Model) (function : DeclId) :
    Option (Except RetrieverMissing TypeRef) := do
  return findRetriever config (← s.get? function) (← s.get? m.decl)

/-- A function uses no retriever, or one is found for it. -/
def Served (s : Snapshot) (config : Config) (m : Model) (function : DeclId)
    (usesRetriever : Bool) : Prop :=
  usesRetriever = true → ∃ type, s.retrieverOf? config m function = some (.ok type)

instance (function : DeclId) (usesRetriever : Bool) :
    Decidable (s.Served config m function usesRetriever) :=
  decidable_of_iff
    (usesRetriever = true → (s.retrieverOf? config m function).any (·.isOk) = true) <| by
      refine imp_congr_right fun _ => ?_
      rcases s.retrieverOf? config m function with _ | e | type
      · simp
      · simp [Except.isOk, Except.toBool]
      · simp [Except.isOk, Except.toBool]

/-- The error of a function that uses a retriever when none is found. -/
def retrieverError? (s : Snapshot) (config : Config) (m : Model) (function : DeclId)
    (usesRetriever : Bool) : Option RetrieverMissing :=
  if usesRetriever then
    match s.retrieverOf? config m function with
    | some (.error e) => some e
    | _ => none
  else none

/-- A function that is declared is served, or it has an error, which is what keeps it from a
binding. -/
theorem bindingFor_cases (hm : (s.get? m.decl).isSome) {function : DeclId}
    (hf : (s.get? function).isSome) (config : Config) (site : Site) (usesRetriever : Bool) :
    (s.Served config m function usesRetriever ∧
      s.retrieverError? config m function usesRetriever = none ∧
      ∃ b, bindingFor s config m site function usesRetriever = .ok b) ∨
    (¬ s.Served config m function usesRetriever ∧
      ∃ e, s.retrieverError? config m function usesRetriever = some e ∧
        bindingFor s config m site function usesRetriever = .error e) := by
  cases usesRetriever with
  | false => exact Or.inl ⟨by rintro ⟨⟩, rfl, none, rfl⟩
  | true =>
    obtain ⟨d, hd⟩ := Option.isSome_iff_exists.mp hm
    obtain ⟨f, hf⟩ := Option.isSome_iff_exists.mp hf
    have hsearch : s.retrieverOf? config m function = some (findRetriever config f d) := by
      simp [retrieverOf?, hd, hf]
    have hbind : s.bindAt config function m.decl site = s.bind config f d site := by
      simp only [bindAt, hf, hd]
    rcases hfind : findRetriever config f d with e | type
    · refine Or.inr ⟨?_, e, ?_, ?_⟩
      · intro h
        obtain ⟨type, htype⟩ := h rfl
        rw [hsearch, hfind] at htype
        cases htype
      · simp only [retrieverError?, hsearch, hfind, if_true]
      · rw [bindingFor, if_pos rfl, hbind, Snapshot.bind, hfind]
        rfl
    · refine Or.inl ⟨fun _ => ⟨type, by rw [hsearch, hfind]⟩, ?_, ?_⟩
      · simp only [retrieverError?, hsearch, hfind, if_true]
      · rw [bindingFor, if_pos rfl, hbind, Snapshot.bind, hfind]
        exact ⟨_, rfl⟩

/-- What a function without its retriever is reported for. -/
def retrieverFault? (s : Snapshot) (config : Config) (m : Model) (function : DeclId)
    (usesRetriever : Bool) : Option Finding :=
  (s.retrieverError? config m function usesRetriever).map fun e => .retrieverMissing e.function

/-- A function gets its wrapper and nothing is reported, or it gets none and its fault is. -/
theorem reported_cases (hm : (s.get? m.decl).isSome) {function : DeclId}
    (hf : (s.get? function).isSome) (config : Config) (site : Site) (usesRetriever : Bool)
    (make : Option Binding → Wrapper) :
    (s.Served config m function usesRetriever ∧
      s.retrieverFault? config m function usesRetriever = none ∧
      ∃ w, make <$> bindingFor s config m site function usesRetriever = .ok w ∧
        reported (make <$> bindingFor s config m site function usesRetriever) = (some w, [])) ∨
    (¬ s.Served config m function usesRetriever ∧
      ∃ fault, s.retrieverFault? config m function usesRetriever = some fault ∧
        reported (make <$> bindingFor s config m site function usesRetriever) =
          (none, [fault])) := by
  rcases bindingFor_cases hm hf config site usesRetriever with
    ⟨hserved, herror, b, hb⟩ | ⟨hserved, e, herror, hb⟩
  · refine Or.inl ⟨hserved, by rw [retrieverFault?, herror]; rfl, make b, ?_, ?_⟩
    · rw [hb]
      rfl
    · rw [hb]
      rfl
  · refine Or.inr ⟨hserved, .retrieverMissing e.function, by rw [retrieverFault?, herror]; rfl, ?_⟩
    rw [hb]
    rfl

/-! ## Wrappers of intents -/

/-- The wrapper that is made for an intent, under the name of the intent and the model. -/
structure WrapsIntent (s : Snapshot) (config : Config) (m : Model) (i : Intent) (w : Wrapper) :
    Prop where
  made : s.intentWrapper config m i = .ok w
  name : w.name = i.name ++ m.name
  kind : w.kind = .intent
  function : w.function = i.qualifiedName

theorem wrapsIntent_of_ok {i : Intent} {w : Wrapper} (h : s.intentWrapper config m i = .ok w) :
    s.WrapsIntent config m i w := by
  obtain ⟨b, -, rfl⟩ := exists_of_intentWrapper h
  exact ⟨h, rfl, rfl, rfl⟩

/-- The wrappers of some intents are those of the served ones, in their order. -/
theorem wrapsIntents (hm : (s.get? m.decl).isSome) (config : Config) {intents : List Intent}
    (hi : ∀ i ∈ intents, (s.get? i.decl).isSome) :
    List.Forall₂ (s.WrapsIntent config m)
        (intents.filter fun i => s.Served config m i.decl i.usesRetriever)
        ((intents.map fun i => reported (s.intentWrapper config m i)).filterMap (·.1)) ∧
      (intents.map fun i => reported (s.intentWrapper config m i)).flatMap (·.2) =
        intents.filterMap fun i => s.retrieverFault? config m i.decl i.usesRetriever := by
  induction intents with
  | nil => exact ⟨.nil, rfl⟩
  | cons i intents ih =>
    obtain ⟨hwraps, hfaults⟩ := ih fun j hj => hi j (List.mem_cons_of_mem i hj)
    have hcases := reported_cases hm (hi i List.mem_cons_self) config .intent i.usesRetriever
      fun b => wrapperOf (i.name ++ m.name) .intent i.qualifiedName
        (decodeSteps 0 i.arguments ++ intentSteps m i b) i.isSuspending
    rw [← intentWrapper_eq] at hcases
    simp only [List.map_cons, List.filter_cons, List.filterMap_cons, List.flatMap_cons, hfaults]
    rcases hcases with ⟨hserved, hfault, w, hw, hr⟩ | ⟨hserved, fault, hfault, hr⟩
    · simp only [hserved, hfault, hr, decide_true, if_true, List.nil_append, and_true]
      exact .cons (wrapsIntent_of_ok hw) hwraps
    · simp only [hserved, hfault, hr, decide_false, Bool.false_eq_true, if_false,
        List.singleton_append, and_true]
      exact hwraps

/-- Only served intents have a wrapper. -/
theorem WrapsIntent.served (hs : Functions s m) {i : Intent} (hi : i ∈ m.intents) {w : Wrapper}
    (h : s.WrapsIntent config m i w) : s.Served config m i.decl i.usesRetriever := by
  obtain ⟨b, hb, -⟩ := exists_of_intentWrapper h.made
  rcases bindingFor_cases hs.model (hs.intents i hi) config .intent i.usesRetriever with
    ⟨hserved, -⟩ | ⟨-, e, -, he⟩
  · exact hserved
  · rw [hb] at he
    cases he

/-! ## The wrapper of the init function -/

/-- The wrapper that is made for an init function, under the name of the model. -/
structure WrapsInit (s : Snapshot) (config : Config) (m : Model) (i : Init) (w : Wrapper) :
    Prop where
  made : s.initWrapper config m i = .ok w
  name : w.name = "init" ++ m.name
  kind : w.kind = .init
  function : w.function = i.qualifiedName

theorem wrapsInit_of_ok {i : Init} {w : Wrapper} (h : s.initWrapper config m i = .ok w) :
    s.WrapsInit config m i w := by
  obtain ⟨b, -, rfl⟩ := exists_of_initWrapper h
  exact ⟨h, rfl, rfl, rfl⟩

/-- What keeps the init function of a model from a wrapper: there is none, it needs an instance,
or its retriever is not found. -/
def initFault? (s : Snapshot) (config : Config) (m : Model) : Option Finding :=
  match m.init with
  | none => some (.initMissing m.qualifiedName m.name)
  | some i =>
    match i.placement with
    | .nested parent => some (.initNotStatic i.qualifiedName parent)
    | .topLevel | .companion _ => s.retrieverFault? config m i.decl i.usesRetriever

/-- An init function that can be called without an instance, and is served. -/
def CanStart (s : Snapshot) (config : Config) (m : Model) (i : Init) : Prop :=
  (∀ parent, i.placement ≠ .nested parent) ∧ s.Served config m i.decl i.usesRetriever

section
variable {i : Init} (hi : m.init = some i) (hp : ∀ parent, i.placement ≠ .nested parent)
include hi hp

/-- Where no instance is needed, only the retriever can be at fault. -/
theorem initFault?_of_static (config : Config) :
    s.initFault? config m = s.retrieverFault? config m i.decl i.usesRetriever := by
  unfold initFault?
  rw [hi]
  rcases hplace : i.placement with _ | owner | parent
  · simp only [hplace]
  · simp only [hplace]
  · exact absurd hplace (hp parent)

theorem initOutcome_of_static (s : Snapshot) (config : Config) :
    s.initOutcome config m = reported (s.initWrapper config m i) := by
  unfold initOutcome Model.checkInit
  rw [hi]
  rcases hplace : i.placement with _ | owner | parent
  · simp only [hplace]
  · simp only [hplace]
  · exact absurd hplace (hp parent)

end

/-- The model has a wrapper for its init function and no fault there, or a fault and no wrapper. -/
theorem initOutcome_cases (hs : Functions s m) (config : Config) :
    (∃ i w, m.init = some i ∧ s.CanStart config m i ∧ s.initFault? config m = none ∧
      s.WrapsInit config m i w ∧ s.initOutcome config m = (some w, [])) ∨
    (∃ fault, (∀ i, m.init = some i → ¬ s.CanStart config m i) ∧
      s.initFault? config m = some fault ∧ s.initOutcome config m = (none, [fault])) := by
  rcases hinit : m.init with _ | i
  · refine Or.inr ⟨.initMissing m.qualifiedName m.name, by rintro _ ⟨⟩, ?_, ?_⟩
    · simp only [initFault?, hinit]
    · simp only [initOutcome, Model.checkInit, hinit]
  by_cases hp : ∀ parent, i.placement ≠ .nested parent
  · rw [initFault?_of_static hinit hp, initOutcome_of_static hinit hp, initWrapper_eq]
    have hcases := reported_cases hs.model (hs.init i hinit) config .init i.usesRetriever
      fun b => wrapperOf ("init" ++ m.name) .init i.qualifiedName
        (decodeSteps 0 i.parameters ++ initSteps m i b) i.isSuspending
    rcases hcases with ⟨hserved, hfault, w, hw, hr⟩ | ⟨hserved, fault, hfault, hr⟩
    · rw [← initWrapper_eq] at hw
      exact Or.inl ⟨i, w, rfl, ⟨hp, hserved⟩, hfault, wrapsInit_of_ok hw, hr⟩
    · refine Or.inr ⟨fault, ?_, hfault, hr⟩
      rintro _ ⟨⟩ h
      exact hserved h.2
  · obtain ⟨parent, hplace⟩ := not_forall_not.mp hp
    refine Or.inr ⟨.initNotStatic i.qualifiedName parent, ?_, ?_, ?_⟩
    · rintro _ ⟨⟩ h
      exact h.1 parent hplace
    · simp only [initFault?, hinit, hplace]
    · simp only [initOutcome, Model.checkInit, hinit, hplace]

end Snapshot

end BoundaryGen
