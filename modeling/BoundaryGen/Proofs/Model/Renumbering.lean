-- The models of a snapshot, and the retrievers of their functions, under other
-- numbers of the declarations.
import Mathlib
import BoundaryGen.Model.Retriever
import BoundaryGen.Proofs.Snapshot.Renumbering

namespace BoundaryGen

variable {ρ : DeclId → DeclId}

/-! ## Models and bindings under other numbers -/

def Intent.renumber (ρ : DeclId → DeclId) (i : Intent) : Intent := { i with decl := ρ i.decl }

def Init.renumber (ρ : DeclId → DeclId) (i : Init) : Init := { i with decl := ρ i.decl }

def Model.renumber (ρ : DeclId → DeclId) (m : Model) : Model where
  decl := ρ m.decl
  name := m.name
  qualifiedName := m.qualifiedName
  package := m.package
  type := m.type
  fields := m.fields
  init := m.init.map (·.renumber ρ)
  intents := m.intents.map (·.renumber ρ)
  retriever := m.retriever

def ValueSource.renumber (ρ : DeclId → DeclId) : ValueSource → ValueSource
  | .returned type => .returned type
  | .inPair type => .inPair type
  | .method function name type => .method (ρ function) name type
  | .companion function name type => .companion (ρ function) name type
  | .absent type => .absent type

def Binding.renumber (ρ : DeclId → DeclId) (b : Binding) : Binding :=
  { b with info := b.info.renumber ρ, data := b.data.renumber ρ }

namespace Snapshot

theorem firstOfEach_map (hρ : Function.Injective ρ) (pairs : List (DeclId × Convention))
    (seen : List DeclId) :
    firstOfEach (seen.map ρ) (pairs.map fun (id, c) => (ρ id, c)) =
      (firstOfEach seen pairs).map fun (id, c) => (ρ id, c) := by
  induction pairs generalizing seen with
  | nil => rfl
  | cons pair rest ih =>
    simp only [List.map_cons, firstOfEach, List.mem_map_of_injective hρ]
    split
    · exact ih seen
    · rw [List.map_cons, ← ih (pair.1 :: seen), List.map_cons]

namespace Renumbering

variable {s s' : Snapshot} (h : Renumbering s s' ρ)
include h

/-! ## Finding models and functions -/

theorem modelIds (config : Config) : s'.modelIds config = (s.modelIds config).map ρ := by
  unfold Snapshot.modelIds
  rw [h.annotated, List.filter_map]
  refine congrArg (List.map ρ) (List.filter_congr fun i _ => ?_)
  rw [Function.comp_apply, h.get?]
  cases s.get? i <;> rfl

theorem freeIntentIds (config : Config) (model : DeclId) :
    s'.freeIntentIds config (ρ model) = (s.freeIntentIds config model).map ρ := by
  unfold Snapshot.freeIntentIds
  rw [h.functionsAnnotated, h.starProjectedType, List.filterMap_map, List.map_filterMap]
  refine List.filterMap_congr fun (d, f) _ => ?_
  simp only [Function.comp_apply, Declaration.renumber_parent, Option.isNone_map,
    Declaration.renumber_id]
  split <;> rfl

theorem receiverConvention? (model : DeclId) (name : String) (d : Declaration)
    (f : FunctionShape) : Snapshot.receiverConvention? (ρ model) name (d.renumber ρ) f =
      Snapshot.receiverConvention? model name d f := by
  unfold Snapshot.receiverConvention?
  rw [Declaration.renumber_parent, if_congr h.some_eq_map rfl rfl]

theorem receiverIntentIds (config : Config) (model : DeclId) :
    s'.receiverIntentIds config (ρ model) =
      (s.receiverIntentIds config model).map fun (id, c) => (ρ id, c) := by
  unfold Snapshot.receiverIntentIds
  rw [h.get?]
  cases s.get? model with
  | none => rfl
  | some m =>
    simp only [Option.map_some, Declaration.renumber_qualifiedName]
    rw [← firstOfEach_map h.injective, h.functionsAnnotated, List.filterMap_map,
      List.map_filterMap, List.map_nil]
    refine congrArg (firstOfEach []) (List.filterMap_congr fun (d, f) _ => ?_)
    simp only [Function.comp_apply, h.receiverConvention?, Declaration.renumber_id, Option.map_map]
    rfl

theorem initId (config : Config) (model : DeclId) :
    s'.initId config (ρ model) = (s.initId config model).map ρ := by
  unfold Snapshot.initId
  rw [h.functionsAnnotated, h.starProjectedType, List.findSome?_map, List.map_findSome?]
  congr 1
  funext (d, f)
  refine Eq.trans (if_congr ?_ rfl rfl) (Eq.symm (apply_ite (Option.map ρ) _ _ _))
  rw [Declaration.renumber_id, h.grandparentId?, h.some_eq_map]
  rfl

/-! ## Descriptions -/

theorem intentOf? (config : Config) (i : DeclId) (c : Convention) :
    s'.intentOf? config (ρ i) c = (s.intentOf? config i c).map (·.renumber ρ) := by
  unfold Snapshot.intentOf?
  rw [h.get?]
  cases s.get? i with
  | none => rfl
  | some d => cases hf : d.function? <;> simp [hf, intent, Intent.renumber, asksRetriever]

theorem placement (d model : Declaration) :
    s'.placement (d.renumber ρ) (model.renumber ρ) = s.placement d model := by
  unfold Snapshot.placement
  rw [Declaration.renumber_id, h.parent?]
  cases s.parent? d.id with
  | none => rfl
  | some parent =>
    simp only [Option.map_some, Declaration.renumber_isCompanion, Declaration.renumber_parent,
      Declaration.renumber_qualifiedName]
    refine if_congr Iff.rfl ?_ rfl
    cases hp : parent.parent with
    | none => rfl
    | some p =>
      simp only [Option.map_some, Option.bind_some, h.get?]
      cases s.get? p <;> rfl

theorem initOf? (config : Config) (i : DeclId) (model : Declaration) :
    s'.initOf? config (ρ i) (model.renumber ρ) =
      (s.initOf? config i model).map (·.renumber ρ) := by
  unfold Snapshot.initOf?
  rw [h.get?]
  cases s.get? i with
  | none => rfl
  | some d =>
    cases hf : d.function? <;> simp [hf, Init.renumber, asksRetriever, h.placement]

theorem intents (config : Config) (model : DeclId) :
    s'.intents config (ρ model) = (s.intents config model).map (·.renumber ρ) := by
  unfold Snapshot.intents
  rw [h.freeIntentIds, h.receiverIntentIds, List.map_append, List.filterMap_map,
    List.filterMap_map, List.map_filterMap, List.map_filterMap]
  congr 1
  · exact List.filterMap_congr fun i _ => h.intentOf? config i .free
  · exact List.filterMap_congr fun (i, c) _ => h.intentOf? config i c

theorem model? (config : Config) (i : DeclId) :
    s'.model? config (ρ i) = (s.model? config i).map (·.renumber ρ) := by
  unfold Snapshot.model?
  rw [h.get?]
  cases s.get? i with
  | none => rfl
  | some d =>
    have hinit : (s'.initId config (ρ i)).bind (s'.initOf? config · (d.renumber ρ)) =
        ((s.initId config i).bind (s.initOf? config · d)).map (·.renumber ρ) := by
      rw [h.initId]
      cases s.initId config i <;> simp [h.initOf?]
    simp [hinit, Model.renumber, h.starProjectedType, h.intents]

theorem models (config : Config) :
    s'.models config = (s.models config).map (·.renumber ρ) := by
  unfold Snapshot.models
  rw [h.modelIds, List.filterMap_map, List.map_filterMap]
  exact List.filterMap_congr fun i _ => h.model? config i

/-! ## Retrievers -/

theorem infoType (retriever : TypeRef) : s'.infoType retriever = s.infoType retriever := by
  unfold Snapshot.infoType
  rw [h.classNamed]
  cases s.classNamed retriever.name <;> rfl

theorem methodProviders (name : String) (model : DeclId) :
    s'.methodProviders name (ρ model) = (s.methodProviders name model).map (·.renumber ρ) := by
  unfold Snapshot.methodProviders
  rw [h.functionsAnnotated, List.filterMap_map, List.map_filterMap]
  refine List.filterMap_congr fun (d, f) _ => ?_
  simp only [Function.comp_apply, Declaration.renumber_parent, h.some_eq_map,
    apply_ite (Option.map (Declaration.renumber ρ)), Option.map_some, Option.map_none]

theorem companionProviders (name : String) (model : DeclId) :
    s'.companionProviders name (ρ model) =
      (s.companionProviders name model).map (·.renumber ρ) := by
  unfold Snapshot.companionProviders
  rw [h.functionsAnnotated, List.filterMap_map, List.map_filterMap]
  refine List.filterMap_congr fun (d, f) _ => ?_
  simp only [Function.comp_apply, Declaration.renumber_parent, Declaration.renumber_id, ne_eq,
    h.grandparentId?, h.some_eq_map, apply_ite (Option.map (Declaration.renumber ρ)),
    Option.map_some, Option.map_none]

omit h in
theorem firstProvider (fits : TypeRef → Bool) (providers : List Declaration) :
    Snapshot.firstProvider fits (providers.map (·.renumber ρ)) =
      (Snapshot.firstProvider fits providers).map fun (d, type) => (d.renumber ρ, type) := by
  unfold Snapshot.firstProvider
  rw [List.findSome?_map, List.map_findSome?]
  congr 1
  funext d
  simp only [Function.comp_apply, Snapshot.returnType?, Declaration.renumber_function?]
  cases d.function?.bind (·.returnType) with
  | none => rfl
  | some type => cases hf : fits type <;> simp [hf]

theorem source? (config : Config) (fits : TypeRef → Bool) (element : Nat) (name : String)
    (function : Declaration) (model : DeclId) (site : Site) :
    s'.source? config fits element name (function.renumber ρ) (ρ model) site =
      (s.source? config fits element name function model site).map (·.renumber ρ) := by
  unfold Snapshot.source?
  simp only [h.methodProviders, h.companionProviders, firstProvider, Option.map_or,
    Option.map_map]
  congr 1
  congr 1
  · have hreturn : returnType? (function.renumber ρ) = returnType? function := rfl
    rw [hreturn]
    cases returnType? function with
    | none => rfl
    | some type =>
      simp only [Option.bind_some]
      split
      · rfl
      · cases pairElement? config type element with
        | none => rfl
        | some inner =>
          simp only [Option.bind_some]
          split <;> rfl
  · cases site
    · rfl
    · simp only [Option.map_map]
      rfl

theorem infoSource (config : Config) (retriever : TypeRef) (function : Declaration)
    (model : DeclId) (site : Site) :
    s'.infoSource config retriever (function.renumber ρ) (ρ model) site =
      (s.infoSource config retriever function model site).renumber ρ := by
  unfold Snapshot.infoSource
  rw [h.infoType]
  cases s.infoType retriever with
  | none => rfl
  | some wanted =>
    simp only [h.source?]
    cases s.source? config (· = wanted) 0 config.annotations.retrieveInfo function model site <;>
      rfl

theorem dataSource (config : Config) (function : Declaration) (model : DeclId) (site : Site) :
    s'.dataSource config (function.renumber ρ) (ρ model) site =
      (s.dataSource config function model site).renumber ρ := by
  unfold Snapshot.dataSource
  rw [show s'.isAssignable config.retrieverDataType = s.isAssignable config.retrieverDataType from
    funext (h.isAssignable _), h.source?]
  cases s.source? config (s.isAssignable config.retrieverDataType) 1
    config.annotations.retrieveData function model site <;> rfl

theorem bind (config : Config) (function model : Declaration) (site : Site) :
    s'.bind config (function.renumber ρ) (model.renumber ρ) site =
      (s.bind config function model site).map (·.renumber ρ) := by
  unfold Snapshot.bind
  have hfind : Snapshot.findRetriever config (function.renumber ρ) (model.renumber ρ) =
      Snapshot.findRetriever config function model := rfl
  rw [hfind, Declaration.renumber_id]
  cases Snapshot.findRetriever config function model with
  | error e => rfl
  | ok retriever =>
    simp only [h.infoSource, h.dataSource]
    rfl

theorem bindAt (config : Config) (function model : DeclId) (site : Site) :
    s'.bindAt config (ρ function) (ρ model) site =
      (s.bindAt config function model site).map (·.renumber ρ) := by
  unfold Snapshot.bindAt
  rw [h.get?, h.get?]
  cases s.get? function with
  | none => rfl
  | some f =>
    cases s.get? model with
    | none => rfl
    | some m => exact h.bind config f m site

end Renumbering

end Snapshot

end BoundaryGen
