-- A generation over a snapshot with some declarations out of sight: a model that nothing out of
-- sight mentions has the same unit, the same findings and the same entry of the manifest.
import Mathlib
import BoundaryGen.Generation
import BoundaryGen.Proofs.Model.Restriction

namespace BoundaryGen

namespace OrderedMap

variable {κ α : Type} [DecidableEq κ]

/-- Of the values that are put under a key the last one stands. -/
theorem get?_insertAll (m : OrderedMap κ α) (pairs : List (κ × α)) (key : κ) :
    (m.insertAll pairs).get? key =
      ((pairs.filter (·.1 = key)).getLast?.map (·.2)).or (m.get? key) := by
  induction pairs generalizing m with
  | nil => rfl
  | cons pair rest ih =>
    have hrest : (m.insertAll (pair :: rest)).get? key = _ := ih (m.insert pair.1 pair.2)
    rw [hrest, get?_insert, List.filter_cons]
    by_cases hkey : pair.1 = key
    · rw [if_pos hkey.symm, if_pos (decide_eq_true hkey), List.getLast?_cons]
      cases (rest.filter (·.1 = key)).getLast? <;> rfl
    · rw [if_neg (Ne.symm hkey), if_neg (by simpa using hkey)]

end OrderedMap

/-! ## Types of a model -/

/-- All types that a model and its functions declare. -/
def Model.types (m : Model) : List TypeRef :=
  m.type :: m.fields.map (·.type) ++ m.init.toList.flatMap (·.parameters.map (·.type))
    ++ m.intents.flatMap (·.parameters.map (·.type))

namespace Snapshot

variable {s t : Snapshot} {m : Model}

theorem typeTexts_congr {parameters : List Parameter}
    (h : ∀ p ∈ parameters, t.typeText p.type = s.typeText p.type) :
    t.typeTexts parameters = s.typeTexts parameters :=
  List.map_congr_left fun p hp => by rw [h p hp]

/-- The entry of a model in the manifest depends on the texts of its own types only. -/
theorem modelData_congr (h : ∀ type ∈ m.types, t.typeText type = s.typeText type) :
    t.modelData m = s.modelData m := by
  simp only [Model.types, List.cons_append, List.mem_cons, List.mem_append, List.mem_map,
    List.mem_flatMap, Option.mem_toList] at h
  have hfields : t.typeTexts m.fields = s.typeTexts m.fields :=
    typeTexts_congr fun p hp => h p.type (Or.inr (Or.inl (Or.inl ⟨p, hp, rfl⟩)))
  have hinit : m.init.map (fun i => t.typeTexts i.parameters) =
      m.init.map fun i => s.typeTexts i.parameters := by
    refine Option.map_congr fun i hi => typeTexts_congr fun p hp => ?_
    exact h p.type (Or.inr (Or.inl (Or.inr ⟨i, hi, p, hp, rfl⟩)))
  have hintents : ∀ i ∈ m.distinctIntents, t.intentParameters m i = s.intentParameters m i := by
    intro i hi
    have hmem : i ∈ m.intents := (List.mem_filter.mp hi).1
    have hparameters : t.typeTexts i.parameters = s.typeTexts i.parameters :=
      typeTexts_congr fun p hp => h p.type (Or.inr (Or.inr ⟨i, hmem, p, hp, rfl⟩))
    unfold intentParameters
    rw [hparameters, h m.type (Or.inl rfl)]
  unfold modelData
  rw [hfields, hinit, List.map_congr_left fun i hi => by rw [hintents i hi]]

/-- A model comes from a class. -/
theorem exists_class_of_mem_modelIds {config : Config} {i : DeclId} (hi : i ∈ s.modelIds config) :
    ∃ d, s.get? i = some d ∧ d.class?.isSome := by
  have hclass := (List.mem_filter.mp hi).2
  cases hd : s.get? i with
  | none =>
    rw [hd] at hclass
    cases hclass
  | some d =>
    rw [hd, Bool.and_eq_true] at hclass
    exact ⟨d, rfl, hclass.1⟩

theorem qualifiedName_of_model? {config : Config} {i : DeclId} {d : Declaration}
    (hd : s.get? i = some d) (hm : s.model? config i = some m) :
    m.qualifiedName = d.qualifiedName := by
  rw [model?, hd] at hm
  cases hm
  rfl

theorem filter_model?_of_ne {config : Config} {i : DeclId} {d : Declaration} {name : String}
    (hd : s.get? i = some d) (hne : d.qualifiedName ≠ name) :
    (s.model? config i).filter (fun m => m.qualifiedName = name) = none := by
  cases hm : s.model? config i with
  | none => rfl
  | some m =>
    rw [← qualifiedName_of_model? hd hm] at hne
    rw [Option.filter_some, if_neg (by simpa using hne)]

/-- The entry of a name in the manifest is that of the last model of the name. -/
theorem get?_manifest_eq_getLast? (s : Snapshot) (models : List Model) (name : String) :
    (s.manifest models).models.get? name =
      (models.filter fun m => m.qualifiedName = name).getLast?.map s.modelData := by
  rw [manifest, OrderedMap.ofList, OrderedMap.get?_insertAll, List.filter_map, List.getLast?_map,
    Option.map_map]
  exact Option.or_none

namespace Restricts

variable {kept : DeclId → Bool} {known : String → Prop} (h : Restricts s t kept known)
  (hassign : ∀ {target type}, known type.name →
    t.isAssignable target type = s.isAssignable target type)
include h hassign

/-! ## Units -/

section Unit

variable (hm : kept m.decl = true) (config : Config)
include hm

theorem bindingFor (site : Site) {function : DeclId} (hf : kept function = true)
    (usesRetriever : Bool) :
    Snapshot.bindingFor t config m site function usesRetriever =
      Snapshot.bindingFor s config m site function usesRetriever := by
  unfold Snapshot.bindingFor
  rw [h.bindAt hassign config hf hm site]

theorem unit (hinit : ∀ i, m.init = some i → kept i.decl = true)
    (hintents : ∀ i ∈ m.intents, kept i.decl = true) : t.unit config m = s.unit config m := by
  have hfirst : t.initOutcome config m = s.initOutcome config m := by
    unfold initOutcome
    split
    · rename_i i _ hi
      rw [initWrapper_eq, initWrapper_eq, h.bindingFor hassign hm config .init (hinit i hi)]
    · rfl
  have hothers : ∀ i ∈ m.distinctIntents,
      reported (t.intentWrapper config m i) = reported (s.intentWrapper config m i) := by
    intro i hi
    have hkept := hintents i (List.mem_filter.mp hi).1
    rw [intentWrapper_eq, intentWrapper_eq, h.bindingFor hassign hm config .intent hkept]
  unfold Snapshot.unit
  rw [hfirst, List.map_congr_left hothers]

end Unit

/-! ## The manifest -/

omit hassign in
/-- The models of a known name that nothing out of sight mentions. -/
theorem models_named {name : String} (hn : known name) (hq : ¬ s.Mentioned kept name)
    (config : Config) :
    (t.models config).filter (fun m => m.qualifiedName = name) =
      (s.models config).filter (fun m => m.qualifiedName = name) := by
  unfold Snapshot.models
  rw [h.modelIds, List.filterMap_filter, List.filter_filterMap, List.filter_filterMap]
  refine List.filterMap_congr fun i hi => ?_
  obtain ⟨d, hd, hclass⟩ := exists_class_of_mem_modelIds hi
  cases hkept : kept i with
  | true =>
    rw [if_pos rfl]
    by_cases hname : d.qualifiedName = name
    · rw [← hname] at hq
      rw [h.model? hkept hd hq]
    · rw [filter_model?_of_ne hd hname,
        filter_model?_of_ne ((h.get? hkept).trans hd) hname]
  | false =>
    rw [if_neg Bool.false_ne_true]
    refine (filter_model?_of_ne hd fun hname => ?_).symm
    rw [← hname] at hn
    exact h.unknown_class hkept hd hclass hn

omit hassign in
theorem get?_manifest {name : String} (hn : known name) (hq : ¬ s.Mentioned kept name)
    {config : Config}
    (htypes : ∀ m ∈ t.models config, ∀ type ∈ m.types, ∀ name ∈ type.names, known name) :
    (t.manifest (t.models config)).models.get? name =
      (s.manifest (s.models config)).models.get? name := by
  rw [get?_manifest_eq_getLast?, get?_manifest_eq_getLast?, ← h.models_named hn hq config]
  refine Option.map_congr fun m hm => modelData_congr fun type htype => ?_
  have hmem := (List.mem_filter.mp (List.mem_of_getLast? hm)).1
  exact h.typeText (htypes m hmem type htype)

end Restricts

end Snapshot

end BoundaryGen
