-- A generation under other numbers of the declarations: the numbers stand in
-- the steps that ask a retriever, and nothing else depends on them.
import Mathlib
import BoundaryGen.Generation
import BoundaryGen.Proofs.Model.Renumbering
import BoundaryGen.Proofs.Wrapper.Unit

namespace BoundaryGen

variable {ρ σ : DeclId → DeclId}

/-! ## Wrappers under other numbers -/

def Step.renumber (ρ : DeclId → DeclId) : Step → Step
  | .retrieve step =>
    .retrieve { step with info := step.info.renumber ρ, data := step.data.renumber ρ }
  | step => step

def Wrapper.renumber (ρ : DeclId → DeclId) (w : Wrapper) : Wrapper :=
  { w with steps := w.steps.map (·.renumber ρ) }

def WrapperUnit.renumber (ρ : DeclId → DeclId) (u : WrapperUnit) : WrapperUnit :=
  { u with init := u.init.map (·.renumber ρ), intents := u.intents.map (·.renumber ρ) }

/-- A unit with one number in the place of all numbers. -/
def WrapperUnit.withoutIds (u : WrapperUnit) : WrapperUnit := u.renumber fun _ => 0

theorem ValueSource.renumber_renumber (v : ValueSource) :
    (v.renumber ρ).renumber σ = v.renumber (σ ∘ ρ) := by
  cases v <;> rfl

theorem Step.renumber_renumber (step : Step) :
    (step.renumber ρ).renumber σ = step.renumber (σ ∘ ρ) := by
  cases step <;> simp [Step.renumber, ValueSource.renumber_renumber]

theorem Wrapper.renumber_renumber (w : Wrapper) :
    (w.renumber ρ).renumber σ = w.renumber (σ ∘ ρ) := by
  simp [Wrapper.renumber, Function.comp_def, Step.renumber_renumber]

theorem WrapperUnit.withoutIds_renumber (u : WrapperUnit) :
    (u.renumber ρ).withoutIds = u.withoutIds := by
  simp [WrapperUnit.withoutIds, WrapperUnit.renumber, Function.comp_def,
    Wrapper.renumber_renumber]

/-! ## Steps -/

theorem Step.isDecode_renumber (step : Step) : (step.renumber ρ).isDecode = step.isDecode := by
  cases step <;> rfl

theorem decodeSteps_renumber (start : Nat) (parameters : List Parameter) :
    (decodeSteps start parameters).map (·.renumber ρ) = decodeSteps start parameters := by
  induction parameters generalizing start with
  | nil => rfl
  | cons p rest ih => rw [decodeSteps, List.map_cons, ih]; rfl

theorem wrapperOf_renumber (name : String) (kind : WrapperKind) (function : String)
    (steps : List Step) (later : Bool) :
    wrapperOf name kind function (steps.map (·.renumber ρ)) later =
      (wrapperOf name kind function steps later).renumber ρ := by
  simp [wrapperOf, Wrapper.renumber, Function.comp_def, Step.isDecode_renumber]

theorem closingSteps_renumber (m : Model) (value : String) (later : Bool) :
    (closingSteps m value later).map (·.renumber ρ) =
      closingSteps (m.renumber ρ) value later := by
  cases later <;> rfl

namespace Snapshot

theorem resultSteps_renumber (m : Model) (i : Option Intent) (b : Option Binding)
    (later : Bool) :
    resultSteps (m.renumber ρ) (i.map (·.renumber ρ)) (b.map (·.renumber ρ)) later =
      (resultSteps m i b later).map (·.renumber ρ) := by
  cases b with
  | none => exact (closingSteps_renumber m resultVariable later).symm
  | some b =>
    simp only [Option.map_some, resultSteps, List.map_cons, closingSteps_renumber]
    cases i <;> rfl

theorem initSteps_renumber (m : Model) (i : Init) (b : Option Binding) :
    initSteps (m.renumber ρ) (i.renumber ρ) (b.map (·.renumber ρ)) =
      (initSteps m i b).map (·.renumber ρ) :=
  congrArg _ (resultSteps_renumber m none b i.isSuspending)

theorem intentSteps_renumber (m : Model) (i : Intent) (b : Option Binding) :
    intentSteps (m.renumber ρ) (i.renumber ρ) (b.map (·.renumber ρ)) =
      (intentSteps m i b).map (·.renumber ρ) := by
  have hreturns : returnsModel (m.renumber ρ) (i.renumber ρ) = returnsModel m i := rfl
  unfold intentSteps
  rw [hreturns, Option.isSome_map, List.map_cons]
  refine congrArg _ ?_
  split
  · exact congrArg _ (resultSteps_renumber m (some i) b i.isSuspending)
  · exact congrArg _ (closingSteps_renumber m modelVariable i.isSuspending).symm

end Snapshot

/-! ## Checks -/

theorem Model.checkInit_renumber (m : Model) (i : Option Init) :
    (m.renumber ρ).checkInit (i.map (·.renumber ρ)) = m.checkInit i := by
  cases i <;> rfl

theorem repeatedNames_renumber (intents : List Intent) :
    repeatedNames (intents.map (·.renumber ρ)) = repeatedNames intents := by
  unfold repeatedNames
  rw [List.map_map]
  rfl

theorem Model.checkIntentNames_renumber (m : Model) :
    (m.renumber ρ).checkIntentNames = m.checkIntentNames := by
  unfold Model.checkIntentNames
  rw [Model.renumber, repeatedNames_renumber]

theorem Model.distinctIntents_renumber (m : Model) :
    (m.renumber ρ).distinctIntents = m.distinctIntents.map (·.renumber ρ) := by
  unfold Model.distinctIntents
  simp only [Model.renumber, repeatedNames_renumber, List.filter_map]
  rfl

namespace Snapshot.Renumbering

variable {s s' : Snapshot} (h : Renumbering s s' ρ)
include h

/-! ## Units -/

theorem bindingFor (config : Config) (m : Model) (site : Site) (function : DeclId)
    (usesRetriever : Bool) :
    Snapshot.bindingFor s' config (m.renumber ρ) site (ρ function) usesRetriever =
      (Snapshot.bindingFor s config m site function usesRetriever).map
        (Option.map (·.renumber ρ)) := by
  cases usesRetriever with
  | false => rfl
  | true =>
    have hbind : s'.bindAt config (ρ function) (m.renumber ρ).decl site =
        (s.bindAt config function m.decl site).map (·.renumber ρ) := h.bindAt ..
    unfold Snapshot.bindingFor
    rw [if_pos rfl, if_pos rfl, hbind]
    cases s.bindAt config function m.decl site <;> rfl

theorem initWrapper (config : Config) (m : Model) (i : Init) :
    s'.initWrapper config (m.renumber ρ) (i.renumber ρ) =
      (s.initWrapper config m i).map (·.renumber ρ) := by
  have hbinding : Snapshot.bindingFor s' config (m.renumber ρ) .init (i.renumber ρ).decl
      (i.renumber ρ).usesRetriever = (Snapshot.bindingFor s config m .init i.decl
        i.usesRetriever).map (Option.map (·.renumber ρ)) := h.bindingFor ..
  rw [initWrapper_eq, initWrapper_eq, hbinding]
  cases Snapshot.bindingFor s config m .init i.decl i.usesRetriever with
  | error e => rfl
  | ok b =>
    refine congrArg Except.ok ?_
    dsimp only
    rw [← wrapperOf_renumber, List.map_append, decodeSteps_renumber, ← initSteps_renumber]
    rfl

theorem intentWrapper (config : Config) (m : Model) (i : Intent) :
    s'.intentWrapper config (m.renumber ρ) (i.renumber ρ) =
      (s.intentWrapper config m i).map (·.renumber ρ) := by
  have hbinding : Snapshot.bindingFor s' config (m.renumber ρ) .intent (i.renumber ρ).decl
      (i.renumber ρ).usesRetriever = (Snapshot.bindingFor s config m .intent i.decl
        i.usesRetriever).map (Option.map (·.renumber ρ)) := h.bindingFor ..
  rw [intentWrapper_eq, intentWrapper_eq, hbinding]
  cases Snapshot.bindingFor s config m .intent i.decl i.usesRetriever with
  | error e => rfl
  | ok b =>
    refine congrArg Except.ok ?_
    dsimp only
    rw [← wrapperOf_renumber, List.map_append, decodeSteps_renumber, ← intentSteps_renumber]
    rfl

omit h in
theorem reported_renumber (result : Except RetrieverMissing Wrapper) :
    reported (result.map (·.renumber ρ)) =
      ((reported result).1.map (·.renumber ρ), (reported result).2) := by
  cases result <;> rfl

theorem initOutcome (config : Config) (m : Model) :
    s'.initOutcome config (m.renumber ρ) =
      ((s.initOutcome config m).1.map (·.renumber ρ), (s.initOutcome config m).2) := by
  unfold Snapshot.initOutcome
  rw [show (m.renumber ρ).init = m.init.map (·.renumber ρ) from rfl, m.checkInit_renumber]
  cases m.init with
  | none => rfl
  | some i =>
    cases m.checkInit (some i) with
    | nil =>
      simp only [Option.map_some, h.initWrapper]
      exact reported_renumber _
    | cons finding rest => rfl

theorem unit (config : Config) (m : Model) : s'.unit config (m.renumber ρ) =
    ((s.unit config m).1.renumber ρ, (s.unit config m).2) := by
  unfold Snapshot.unit
  simp only [h.initOutcome, m.checkIntentNames_renumber, m.distinctIntents_renumber,
    List.map_map, Function.comp_def, h.intentWrapper, reported_renumber]
  simp only [WrapperUnit.renumber, List.filterMap_map, List.flatMap_map, Function.comp_def,
    List.map_filterMap]
  rfl

/-! ## The manifest -/

theorem typeTexts (parameters : List Parameter) :
    s'.typeTexts parameters = s.typeTexts parameters :=
  List.map_congr_left fun p _ => by rw [h.typeText]

theorem intentParameters (m : Model) (i : Intent) :
    s'.intentParameters (m.renumber ρ) (i.renumber ρ) = s.intentParameters m i := by
  unfold Snapshot.intentParameters
  simp only [h.typeTexts, h.typeText]
  rfl

theorem modelData (m : Model) : s'.modelData (m.renumber ρ) = s.modelData m := by
  unfold Snapshot.modelData
  simp only [h.typeTexts, m.distinctIntents_renumber, List.map_map, Function.comp_def,
    h.intentParameters]
  simp only [Model.renumber, Option.map_map]
  rfl

theorem manifest (models : List Model) :
    s'.manifest (models.map (·.renumber ρ)) = s.manifest models := by
  unfold Snapshot.manifest
  simp only [List.map_map, Function.comp_def, h.modelData]
  rfl

end Snapshot.Renumbering

end BoundaryGen
