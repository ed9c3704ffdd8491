-- What a wrapper saves as the next state: what a retriever gave, or else the result of the function
-- when that is a model by its declared type, or else the model that was loaded. Nothing of another
-- type is saved.
import Mathlib
import BoundaryGen.Proofs.Generation.Inspection
import BoundaryGen.Proofs.Wrapper.CallTarget
import BoundaryGen.Proofs.Wrapper.Meaning

namespace BoundaryGen

/-! ## Variables of steps -/

namespace Step

/-- The variable that a step sets. -/
def sets? : Step → Option String
  | .decode var _ _ | .loadModel var _ _ | .encode var _ _ => some var
  | .call result _ _ => result
  | .retrieve step => some step.result
  | .giveBack _ | .giveBackLater _ => none

/-- The variable whose value a step saves. -/
def saves? : Step → Option String
  | .encode _ value _ => some value
  | _ => none

def isCall : Step → Bool
  | .call .. => true
  | _ => false

theorem Closing.isCall {step : Step} (h : step.Closing) : step.isCall = false := by
  cases h <;> rfl

end Step

namespace Snapshot

variable {s : Snapshot} {es : List SourceEntry} {config : Config} {m : Model} {id : DeclId}
variable {d : Declaration} {f : FunctionShape} {w : Wrapper}

/-! ## States -/

/-- A function returns a state of the model by its declared type: an init function the type of the
model itself, with a star for each type parameter, and an intent any type of its name that is not
nullable. -/
def ReturnsState (s : Snapshot) (m : Model) (f : FunctionShape) : WrapperKind → Prop
  | .init => f.returnType = some (s.starProjectedType m.decl)
  | .intent => ∃ type ∈ f.returnType, type.nullable = false ∧ type.name = m.qualifiedName

instance : (kind : WrapperKind) → Decidable (s.ReturnsState m f kind)
  | .init => inferInstanceAs (Decidable (_ = _))
  | .intent => inferInstanceAs (Decidable (∃ type ∈ f.returnType, _))

/-- A step of a wrapper makes the next state: a retriever gives it; without a retriever the function
returns it; and when that does not either, an intent has changed the model that was loaded. -/
def MakesState (s : Snapshot) (m : Model) (f : FunctionShape) (w : Wrapper) : Step → Prop
  | .retrieve _ => True
  | .call .. => w.retrieves = [] ∧ s.ReturnsState m f w.kind
  | .loadModel _ function source => w.retrieves = [] ∧ ¬ s.ReturnsState m f w.kind ∧
      w.kind = .intent ∧ function = m.loadFunction ∧ source = modelParameter
  | .decode .. | .encode .. | .giveBack _ | .giveBackLater _ => False

/-- A wrapper saves the value of one variable. The step that sets it stands before, makes the next
state, and is the only one that sets it. -/
def SavesState (s : Snapshot) (m : Model) (f : FunctionShape) (w : Wrapper) : Prop :=
  ∃ before value last, w.steps = before ++ [.encode savedVariable value m.saveFunction, last] ∧
    (∀ step ∈ last :: before, step.saves? = none) ∧
    ∃ step ∈ before, step.sets? = some value ∧ s.MakesState m f w step ∧
      ∀ other ∈ w.steps, other.sets? = some value → other = step

/-! ## What is saved -/

/-- A wrapper that decodes its arguments and saves what one of the later steps sets. -/
theorem savesState_of_steps {parameters : List Parameter} {between : List Step} {value : String}
    {later : Bool} (step : Step)
    (hsteps : w.steps = decodeSteps 0 parameters ++ between ++ closingSteps m value later)
    (hsaved : value ≠ savedVariable) (hargument : ∀ i, argumentVariable i ≠ value)
    (hbetween : ∀ other ∈ between, other.saves? = none ∧
      (other.sets? = some value → other = step))
    (hmem : step ∈ between) (hsets : step.sets? = some value) (hmakes : s.MakesState m f w step) :
    s.SavesState m f w := by
  have hlast : ∃ last : Step, last.saves? = none ∧ last.sets? = none ∧
      closingSteps m value later = [.encode savedVariable value m.saveFunction, last] := by
    cases later
    · exact ⟨.giveBack savedVariable, rfl, rfl, rfl⟩
    · exact ⟨.giveBackLater savedVariable, rfl, rfl, rfl⟩
  obtain ⟨last, hlastSaves, hlastSets, hclosing⟩ := hlast
  rw [hclosing] at hsteps
  refine ⟨decodeSteps 0 parameters ++ between, value, last, hsteps, ?_, step,
    List.mem_append_right _ hmem, hsets, hmakes, ?_⟩
  · intro other hother
    rcases List.mem_cons.mp hother with rfl | hother
    · exact hlastSaves
    · rcases List.mem_append.mp hother with hother | hother
      · obtain ⟨i, type, rfl⟩ := exists_of_mem_decodeSteps hother
        rfl
      · exact (hbetween other hother).1
  · intro other hother hsame
    rw [hsteps, List.mem_append, List.mem_append] at hother
    rcases hother with (hother | hother) | hother
    · obtain ⟨i, type, rfl⟩ := exists_of_mem_decodeSteps hother
      exact absurd (Option.some.inj hsame) (hargument i)
    · exact (hbetween other hother).2 hsame
    · rcases List.mem_pair.mp hother with rfl | rfl
      · exact absurd (Option.some.inj hsame).symm hsaved
      · rw [hlastSets] at hsame
        cases hsame

/-- A function has a binding exactly when it asks for one. -/
theorem isSome_of_bindingFor {site : Site} {function : DeclId} {usesRetriever : Bool}
    {b : Option Binding} (h : bindingFor s config m site function usesRetriever = .ok b) :
    b.isSome = usesRetriever := by
  cases usesRetriever with
  | false =>
    cases h
    rfl
  | true =>
    obtain ⟨binding, -, rfl⟩ := exists_of_map_eq_ok h
    rfl

/-- The wrapper of an init function saves a state when the function uses a retriever or returns a
state itself. -/
theorem savesState_of_initWrapper {i : Init} (h : s.initWrapper config m i = .ok w)
    (hstate : i.usesRetriever = false → s.ReturnsState m f .init) : s.SavesState m f w := by
  have hretrieves : i.usesRetriever = false → w.retrieves = [] :=
    Wraps.retrieves_eq_nil (f := .init i) (wrapsInit_of_ok h)
  have hkind := (wrapsInit_of_ok h).kind
  obtain ⟨b, hb, rfl⟩ := exists_of_initWrapper h
  have huses := isSome_of_bindingFor hb
  let call : Step := .call (some resultVariable) i.target (argumentVariables i.parameters)
  cases b with
  | none =>
    have hsteps : decodeSteps 0 i.parameters ++ initSteps m i none =
        decodeSteps 0 i.parameters ++ [call] ++
          closingSteps m resultVariable i.isSuspending := by
      simp [initSteps, resultSteps, call]
    refine savesState_of_steps call hsteps (by decide)
      (Execution.argumentVariable_ne (by decide)) ?_ (by simp) rfl
      ⟨hretrieves huses.symm, hkind ▸ hstate huses.symm⟩
    simp [call, Step.saves?]
  | some binding =>
    have hsteps : decodeSteps 0 i.parameters ++ initSteps m i (some binding) =
        decodeSteps 0 i.parameters ++ [call, retrieveStep binding m none] ++
          closingSteps m retrievedVariable i.isSuspending := by
      simp [initSteps, resultSteps, call]
    refine savesState_of_steps (retrieveStep binding m none) hsteps (by decide)
      (Execution.argumentVariable_ne (by decide)) ?_ (by simp) rfl trivial
    simp [call, retrieveStep, Step.saves?, Step.sets?, resultVariable, retrievedVariable]

/-- The wrapper of an intent saves a state. -/
theorem savesState_of_intentWrapper {i : Intent} (h : s.intentWrapper config m i = .ok w)
    (hreturn : i.returnType = f.returnType) : s.SavesState m f w := by
  have hretrieves : i.usesRetriever = false → w.retrieves = [] :=
    Wraps.retrieves_eq_nil (f := .intent i) (wrapsIntent_of_ok h)
  have hkind := (wrapsIntent_of_ok h).kind
  have hstate : returnsModel m i = true ↔ s.ReturnsState m f w.kind := by
    rw [hkind, returnsModel_iff, hreturn]
    rfl
  obtain ⟨b, hb, rfl⟩ := exists_of_intentWrapper h
  have huses := isSome_of_bindingFor hb
  let load : Step := .loadModel modelVariable m.loadFunction modelParameter
  let call (result : Option String) : Step := .call result (intentCall i).1 (intentCall i).2
  cases b with
  | none =>
    by_cases hreturns : returnsModel m i = true
    · have hsteps : decodeSteps 0 i.arguments ++ intentSteps m i none =
          decodeSteps 0 i.arguments ++ [load, call (some resultVariable)] ++
            closingSteps m resultVariable i.isSuspending := by
        simp [intentSteps, resultSteps, hreturns, load, call]
      refine savesState_of_steps (call (some resultVariable)) hsteps (by decide)
        (Execution.argumentVariable_ne (by decide)) ?_ (by simp) rfl
        ⟨hretrieves huses.symm, hstate.mp hreturns⟩
      simp [load, call, Step.saves?, Step.sets?, modelVariable, resultVariable]
    · have hsteps : decodeSteps 0 i.arguments ++ intentSteps m i none =
          decodeSteps 0 i.arguments ++ [load, call none] ++
            closingSteps m modelVariable i.isSuspending := by
        simp [intentSteps, hreturns, load, call]
      refine savesState_of_steps load hsteps (by decide)
        (Execution.argumentVariable_ne (by decide)) ?_ (by simp) rfl
        ⟨hretrieves huses.symm, fun hreturn => hreturns (hstate.mpr hreturn), hkind, rfl, rfl⟩
      simp [load, call, Step.saves?, Step.sets?]
  | some binding =>
    have hsteps : decodeSteps 0 i.arguments ++ intentSteps m i (some binding) =
        decodeSteps 0 i.arguments ++
          [load, call (some resultVariable), retrieveStep binding m (some i)] ++
            closingSteps m retrievedVariable i.isSuspending := by
      simp [intentSteps, resultSteps, load, call]
    refine savesState_of_steps (retrieveStep binding m (some i)) hsteps (by decide)
      (Execution.argumentVariable_ne (by decide)) ?_ (by simp) rfl trivial
    simp [load, call, retrieveStep, Step.saves?, Step.sets?, modelVariable, resultVariable,
      retrievedVariable]

/-! ## Free functions -/

/-- A wrapper makes one call, of a free function, with the loaded model in front of the arguments;
and the first parameter of the function has the type of the model. -/
def HandsModel (s : Snapshot) (m : Model) (d : Declaration) (f : FunctionShape) (w : Wrapper) :
    Prop :=
  (∃ p, f.parameters.head? = some p ∧ p.type = s.starProjectedType m.decl) ∧
    ∃ loaded result arguments, .loadModel loaded m.loadFunction modelParameter ∈ w.steps ∧
      w.steps.filter Step.isCall = [.call result (.function d.qualifiedName) (loaded :: arguments)]

/-- The wrapper of an intent makes one call. -/
theorem calls_of_intentWrapper {i : Intent} (h : s.intentWrapper config m i = .ok w) :
    .loadModel modelVariable m.loadFunction modelParameter ∈ w.steps ∧ ∃ result,
      w.steps.filter Step.isCall = [.call result (intentCall i).1 (intentCall i).2] := by
  obtain ⟨b, -, rfl⟩ := exists_of_intentWrapper h
  have hdecode : (decodeSteps 0 i.arguments).filter Step.isCall = [] := by
    rw [List.filter_eq_nil_iff]
    intro step hstep
    obtain ⟨k, type, rfl⟩ := exists_of_mem_decodeSteps hstep
    exact Bool.false_ne_true
  refine ⟨List.mem_append_right _ List.mem_cons_self, ?_⟩
  have hsteps : ∃ result, (intentSteps m i b).filter Step.isCall =
      [.call result (intentCall i).1 (intentCall i).2] := by
    unfold intentSteps
    rw [List.filter_cons_of_neg (by simp [Step.isCall])]
    split
    · refine ⟨some resultVariable, ?_⟩
      rw [List.filter_cons_of_pos rfl, List.filter_eq_nil_iff.mpr]
      intro step hstep
      rcases retrieve_or_closing_of_mem_resultSteps hstep with ⟨r, rfl⟩ | hclosing
      · exact Bool.false_ne_true
      · rw [hclosing.isCall]
        exact Bool.false_ne_true
    · refine ⟨none, ?_⟩
      rw [List.filter_cons_of_pos rfl, List.filter_eq_nil_iff.mpr]
      intro step hstep
      rw [(closing_of_mem_closingSteps hstep).isCall]
      exact Bool.false_ne_true
  obtain ⟨result, hresult⟩ := hsteps
  refine ⟨result, ?_⟩
  rw [wrapperOf, List.filter_append, hdecode, hresult, List.nil_append]

/-! ## Declared functions -/

/-- An init function that uses no retriever was found by the type that it returns. -/
theorem WellNumbered.returnsState_of_init (hw : WellNumbered s) (hm : s.model? config id = some m)
    {i : Init} (hi : m.init = some i) (hplain : i.usesRetriever = false) (hd : d ∈ s.declarations)
    (hdecl : i.decl = d.id) (hf : d.function? = some f) : s.ReturnsState m f .init := by
  obtain ⟨model, k, d', f', -, hfound, hget, hf', rfl⟩ := exists_initId hm hi
  obtain ⟨⟨found, g⟩, hmem, hpick⟩ := List.exists_of_findSome?_eq_some hfound
  simp only [Option.ite_none_right_eq_some, Option.some.injEq] at hpick
  obtain ⟨hfits, rfl⟩ := hpick
  obtain ⟨k, hget', hg⟩ := exists_get?_of_functionsAnnotated hmem
  -- The function that was found, the one that is described and the one that is declared are one.
  rw [hw.id_eq hget', hget'] at hget
  obtain rfl := Option.some.inj hget
  obtain rfl := hw.eq_of_id_eq (mem_declarations_of_get? hget') hd hdecl
  obtain rfl := Option.some.inj (hg.symm.trans hf)
  rcases hfits with htype | ⟨hasks, -⟩
  · exact htype
  · rw [hasks] at hplain
    cases hplain

/-! ## The law of saved values -/

/-- A wrapper saves nothing but states: the state that a retriever gave; or the result of the
function, which by its declared type is the model, with a star for each type parameter when it comes
from an init function, and not nullable and of the name of the model when it comes from an intent;
or the model that was loaded. A free intent is called with the loaded model in front of its
arguments, and its first parameter has the type of the model. -/
theorem only_states_are_saved {files : List SourceFile} (hs : ofFiles files = .ok s)
    (config : Config) (hm : s.model? config id = some m)
    (hmem : w ∈ (s.unit config m).1.wrappers) :
    ∃ role ∈ m.roles, ∃ d ∈ s.declarations, ∃ f, s.Wraps config m role w ∧ role.decl = d.id ∧
      w.function = d.qualifiedName ∧ d.function? = some f ∧ s.SavesState m f w ∧
      ∀ i, role = .intent i → i.convention = .free → s.HandsModel m d f w := by
  have h := lists_ofFiles hs
  rcases mem_wrappers_unit hmem with ⟨i, hi, hok⟩ | ⟨i, hi, hok⟩
  · obtain ⟨-, d, hd, f, hf, hdecl, -, hname, -⟩ := exists_of_init hm hi
    have hwraps := wrapsInit_of_ok hok
    refine ⟨.init i, Model.mem_roles.mpr (Or.inl ⟨i, hi, rfl⟩), d, hd, f, hwraps, hdecl,
      hwraps.function.trans hname, hf, savesState_of_initWrapper hok fun hplain => ?_, ?_⟩
    · exact h.wellNumbered.returnsState_of_init hm hi hplain hd hdecl hf
    · rintro _ ⟨⟩
  · have hintent := Model.mem_intents_of_mem_distinctIntents hi
    obtain ⟨d, hd, f, c, hf, -, htakes, rfl⟩ := (h.mem_intents_iff hm).mp hintent
    have hwraps := wrapsIntent_of_ok hok
    refine ⟨.intent _, Model.mem_roles.mpr (Or.inr ⟨_, hintent, rfl⟩), d, hd, f, hwraps, rfl,
      hwraps.function, hf, savesState_of_intentWrapper hok rfl, ?_⟩
    rintro _ ⟨⟩ hfree
    obtain rfl : c = .free := hfree
    obtain ⟨hload, result, hcall⟩ := calls_of_intentWrapper hok
    obtain ⟨-, -, hfirst⟩ := htakes
    exact ⟨hfirst, modelVariable, result, _, hload, hcall⟩

/-- A plant with a type parameter, an init function, and an intent for each kind of value that can
be saved. -/
def plantFile : SourceFile where
  path := "app/Plant.kt"
  package := "app"
  declarations :=
    let names : AnnotationNames := {}
    let plant : TypeRef := .starProjected "app.Plant" 1
    let intent (name : String) : Node :=
      Node.functionNamed name |>.annotated { name := names.intent }
    [Node.classNamed "Plant" |>.withTypeParameter "T" |>.annotated { name := names.model }
      |>.annotated ⟨names.retrieveWith, [⟨none, .type { name := "app.Http" }⟩]⟩
      |>.withMember (Node.companion |>.withMember
        (Node.functionNamed "sow" |>.annotated { name := names.init } |>.returning plant))
      |>.withMember (intent "water" |>.returning plant.orNull)
      |>.withMember (Node.functionNamed "sell"
        |>.annotated ⟨names.intent, [⟨none, .flag true⟩]⟩ |>.returning plant),
    intent "prune" |>.withParameter "plant" plant |>.withParameter "by" { name := "kotlin.Int" }
      |>.returning { name := "app.Plant" }]

theorem the_plant_is_saved : ∃ s, ofFiles [plantFile] = .ok s ∧ ∃ m ∈ s.models {},
    (s.unit {} m).1.wrappers.map (fun w => (w.name, w.steps.filterMap Step.saves?)) =
      [("initPlant", ["result"]), ("prunePlant", ["result"]), ("waterPlant", ["nextModel"]),
        ("sellPlant", ["retrieved"])] ∧
    ∀ w ∈ (s.unit {} m).1.wrappers, ∃ d ∈ s.declarations, ∃ f, w.function = d.qualifiedName ∧
      d.function? = some f ∧ s.SavesState m f w := by
  obtain ⟨s, hs, m, hm, hsaved⟩ := exists_ofFiles_singleton plantFile (fun s =>
    ∃ m ∈ s.models {},
      (s.unit {} m).1.wrappers.map (fun w => (w.name, w.steps.filterMap Step.saves?)) =
        [("initPlant", ["result"]), ("prunePlant", ["result"]), ("waterPlant", ["nextModel"]),
          ("sellPlant", ["retrieved"])]) (by decide +kernel)
  refine ⟨s, hs, m, hm, hsaved, fun w hw => ?_⟩
  obtain ⟨id, -, hid⟩ := List.mem_filterMap.mp hm
  obtain ⟨-, -, d, hd, f, -, -, hname, hf, hsaves, -⟩ := only_states_are_saved hs {} hid hw
  exact ⟨d, hd, f, hname, hf, hsaves⟩

end Snapshot

end BoundaryGen
