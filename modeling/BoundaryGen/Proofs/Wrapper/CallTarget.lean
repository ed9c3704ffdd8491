-- What the wrappers call: a free function under its qualified name, a method on the model, an
-- imported extension, or a function of a companion object. That is how the function is declared,
-- unless it is an extension inside a class or stands in a companion object outside every class.
import Mathlib
import BoundaryGen.Proofs.Model.Intents
import BoundaryGen.Source.Build

namespace BoundaryGen

/-! ## Targets -/

/-- What a step calls, if it calls anything. -/
def Step.target? : Step → Option CallTarget
  | .call _ target _ => some target
  | _ => none

/-- What a wrapper calls, in the order of its steps. -/
def Wrapper.targets (w : Wrapper) : List CallTarget := w.steps.filterMap Step.target?

theorem Step.Closing.target? {step : Step} (h : step.Closing) : step.target? = none := by
  cases h <;> rfl

theorem targets_decodeSteps (start : Nat) (parameters : List Parameter) :
    (decodeSteps start parameters).filterMap Step.target? = [] :=
  filterMap_decodeSteps (fun _ _ _ => rfl) start parameters

namespace Snapshot

variable {s : Snapshot} {es : List SourceEntry} {config : Config} {m : Model} {id : DeclId}
variable {d : Declaration} {f : FunctionShape} {w : Wrapper}

theorem targets_resultSteps (m : Model) (intent : Option Intent) (binding : Option Binding)
    (later : Bool) : (resultSteps m intent binding later).filterMap Step.target? = [] :=
  filterMap_resultSteps (fun _ => rfl) Step.Closing.target? m intent binding later

/-- The wrapper of an init function calls its target and nothing else. -/
theorem targets_of_initWrapper {i : Init} (h : s.initWrapper config m i = .ok w) :
    w.targets = [i.target] := by
  obtain ⟨b, -, rfl⟩ := exists_of_initWrapper h
  have hsteps := targets_resultSteps m none b i.isSuspending
  simp [Wrapper.targets, wrapperOf, initSteps, targets_decodeSteps, hsteps, Step.target?]

/-- The wrapper of an intent calls its target and nothing else. -/
theorem targets_of_intentWrapper {i : Intent} (h : s.intentWrapper config m i = .ok w) :
    w.targets = [(intentCall i).1] := by
  obtain ⟨b, -, rfl⟩ := exists_of_intentWrapper h
  have hresult := targets_resultSteps m (some i) b i.isSuspending
  have hclosing := filterMap_closingSteps Step.Closing.target? m modelVariable i.isSuspending
  by_cases hkept : (b.isSome || returnsModel m i) = true
  · simp [Wrapper.targets, wrapperOf, intentSteps, targets_decodeSteps, hkept, hresult,
      List.filterMap_cons, Step.target?]
  · simp [Wrapper.targets, wrapperOf, intentSteps, targets_decodeSteps, hkept, hclosing,
      List.filterMap_cons, Step.target?]

/-- A wrapper of a unit was made for the init function, which needs no instance then, or for an
intent. -/
theorem wraps_of_mem_wrappers (h : w ∈ (s.unit config m).1.wrappers) :
    (∃ i, m.init = some i ∧ (∀ outer, i.placement ≠ .nested outer) ∧
      s.WrapsInit config m i w) ∨ ∃ i ∈ m.distinctIntents, s.WrapsIntent config m i w := by
  simp only [WrapperUnit.wrappers, unit, List.mem_append, Option.mem_toList, List.mem_filterMap,
    List.mem_map] at h
  rcases h with h | ⟨_, ⟨i, hi, rfl⟩, hok⟩
  · obtain ⟨i, hi, hok⟩ := initOutcome_fst_eq_some h
    refine Or.inl ⟨i, hi, ?_, wrapsInit_of_ok hok⟩
    intro outer hplace
    simp [initOutcome, Model.checkInit, hi, hplace] at h
  · exact Or.inr ⟨i, hi, wrapsIntent_of_ok (reported_fst_eq_some.mp hok)⟩

/-! ## Calls as declared -/

/-- A target calls a function in the way that the function is declared. -/
def CallsAsDeclared (s : Snapshot) (m : Model) (d : Declaration) (f : FunctionShape) :
    CallTarget → Prop
  | .function qualifiedName => d.parent = none ∧ d.qualifiedName = qualifiedName
  | .companion owner name => d.simpleName = name ∧
      ∃ object ∈ s.declarations, ∃ outer ∈ s.declarations, d.parent = some object.id ∧
        object.isCompanion = true ∧ object.parent = some outer.id ∧ outer.class?.isSome ∧
        outer.qualifiedName = owner
  | .member receiver name none => receiver = modelVariable ∧ d.simpleName = name ∧
      d.parent = some m.decl ∧ f.receiver = none
  | .member receiver name (some qualifiedName) => receiver = modelVariable ∧ d.simpleName = name ∧
      d.parent = none ∧ d.qualifiedName = qualifiedName ∧
      ∃ type ∈ f.receiver, type.name = m.qualifiedName

instance : (target : CallTarget) → Decidable (s.CallsAsDeclared m d f target)
  | .function _ => inferInstanceAs (Decidable (_ ∧ _))
  | .companion .. => inferInstanceAs (Decidable (_ ∧ ∃ object ∈ s.declarations, _))
  | .member _ _ none | .member _ _ (some _) => inferInstanceAs (Decidable (_ ∧ _))

/-- A function can be called from outside every class: an intent is no extension inside a class,
and the companion object around an init function stands in a class. -/
def CallableFromOutside (s : Snapshot) (d : Declaration) (f : FunctionShape) : WrapperKind → Prop
  | .intent => f.receiver = none ∨ d.parent = none
  | .init => ∀ object ∈ s.declarations, d.parent = some object.id → object.isCompanion = true →
      object.parent ≠ none

instance : (kind : WrapperKind) → Decidable (s.CallableFromOutside d f kind)
  | .intent => inferInstanceAs (Decidable (_ ∨ _))
  | .init => inferInstanceAs (Decidable (∀ object ∈ s.declarations, _))

/-- A declaration is what a wrapper was made for. -/
def MadeFor (s : Snapshot) (config : Config) (m : Model) (w : Wrapper) (d : Declaration) : Prop :=
  (∃ i, m.init = some i ∧ i.decl = d.id ∧ s.WrapsInit config m i w) ∨
    ∃ i ∈ m.distinctIntents, i.decl = d.id ∧ s.WrapsIntent config m i w

/-! ## Intents -/

/-- An intent is called as it is declared unless it is an extension inside a class. -/
theorem callsAsDeclared_intentCall_iff {c : Convention} (h : s.TakesModel m d f c) :
    s.CallsAsDeclared m d f (intentCall (intent config d f c)).1 ↔
      s.CallableFromOutside d f .intent := by
  cases c with
  | free =>
    obtain ⟨hparent, hreceiver, -⟩ := h
    simp [intentCall, intent, CallsAsDeclared, CallableFromOutside, hparent]
  | method =>
    obtain ⟨hparent, -⟩ := h
    simp [intentCall, intent, CallsAsDeclared, CallableFromOutside, hparent]
  | extension =>
    obtain ⟨type, hreceiver, hname⟩ := h
    simp [intentCall, intent, CallsAsDeclared, CallableFromOutside, hreceiver, hname]

/-! ## Init functions -/

/-- Where a function of a snapshot stands: at top level, in the companion object of a class, in a
companion object outside every class, or in a class that is no companion object. -/
inductive Placed (s : Snapshot) (model d : Declaration) : Placement → Prop
  | topLevel : d.parent = none → Placed s model d .topLevel
  | companion {object outer : Declaration} : object ∈ s.declarations → outer ∈ s.declarations →
      d.parent = some object.id → object.isCompanion = true → object.parent = some outer.id →
      outer.class?.isSome → Placed s model d (.companion outer.qualifiedName)
  | stray {object : Declaration} : object ∈ s.declarations → d.parent = some object.id →
      object.isCompanion = true → object.parent = none →
      Placed s model d (.companion model.qualifiedName)
  | nested {outer : Declaration} : outer ∈ s.declarations → d.parent = some outer.id →
      outer.isCompanion = false → Placed s model d (.nested outer.qualifiedName)

/-- The declaration that a declaration stands in. -/
theorem WellNumbered.exists_parent (hw : WellNumbered s) (hd : d ∈ s.declarations) {p : DeclId}
    (hp : d.parent = some p) : ∃ outer ∈ s.declarations, outer.id = p ∧ s.get? p = some outer ∧
      outer.class?.isSome := by
  obtain ⟨-, outer, hget, hclass, -⟩ := hw.parent (hw.get?_id hd) hp
  exact ⟨outer, mem_declarations_of_get? hget, hw.id_eq hget, hget, hclass⟩

theorem WellNumbered.placed (hw : WellNumbered s) (hd : d ∈ s.declarations) (model : Declaration) :
    s.Placed model d (s.placement d model) := by
  have hget := hw.get?_id hd
  unfold placement parent?
  rcases hp : d.parent with _ | p
  · simp only [hget, hp, Option.bind_eq_bind, Option.bind_some, Option.bind_none]
    exact .topLevel hp
  obtain ⟨object, hobject, rfl, hget', -⟩ := hw.exists_parent hd hp
  simp only [hget, hp, hget', Option.bind_eq_bind, Option.bind_some]
  by_cases hcompanion : object.isCompanion = true
  · rw [if_pos hcompanion]
    rcases hp' : object.parent with _ | q
    · exact .stray hobject hp hcompanion hp'
    · obtain ⟨outer, houter, rfl, hget'', hclass⟩ := hw.exists_parent hobject hp'
      simp only [Option.bind_some, hget'', Option.getD_some]
      exact .companion hobject houter hp hcompanion hp' hclass
  · rw [if_neg hcompanion]
    exact .nested hobject hp (Bool.eq_false_of_not_eq_true hcompanion)

/-- The init function of a model is what is described of a function that was found for the model. -/
theorem exists_initId (hm : s.model? config id = some m) {i : Init} (hi : m.init = some i) :
    ∃ model k d f, s.get? m.decl = some model ∧ s.initId config m.decl = some k ∧
      s.get? k = some d ∧ d.function? = some f ∧
      i = {
        decl := d.id
        name := d.simpleName
        qualifiedName := d.qualifiedName
        placement := s.placement d model
        parameters := f.parameters
        returnType := f.returnType
        isAsync := d.hasModifier .suspend
        usesRetriever := asksRetriever d config.annotations.init } := by
  simp only [model?, Option.bind_eq_bind, Option.bind_eq_some_iff, Option.pure_def,
    Option.some.injEq] at hm
  obtain ⟨model, hmodel, rfl⟩ := hm
  obtain ⟨k, hfound, hinit⟩ := Option.bind_eq_some_iff.mp hi
  simp only [initOf?, Option.bind_eq_bind, Option.bind_eq_some_iff, Option.pure_def,
    Option.some.injEq] at hinit
  obtain ⟨d, hd, f, hf, rfl⟩ := hinit
  exact ⟨model, k, d, f, hmodel, hfound, hd, hf, rfl⟩

/-- The init function of a model as it is declared. -/
theorem exists_of_init (hm : s.model? config id = some m) {i : Init}
    (hi : m.init = some i) : ∃ model, ∃ d ∈ s.declarations, ∃ f, d.function? = some f ∧
      i.decl = d.id ∧ i.name = d.simpleName ∧ i.qualifiedName = d.qualifiedName ∧
      i.placement = s.placement d model := by
  obtain ⟨model, _, d, f, -, -, hd, hf, rfl⟩ := exists_initId hm hi
  exact ⟨model, d, mem_declarations_of_get? hd, f, hf, rfl, rfl, rfl, rfl⟩

/-- An init function with a wrapper is called as it is declared when the companion object around it
stands in a class. -/
theorem callsAsDeclared_target_iff (hw : WellNumbered s) (hd : d ∈ s.declarations)
    {model : Declaration} {i : Init} (hplace : i.placement = s.placement d model)
    (hstatic : ∀ outer, i.placement ≠ .nested outer) (hname : i.name = d.simpleName)
    (hqualified : i.qualifiedName = d.qualifiedName) :
    s.CallsAsDeclared m d f i.target ↔ s.CallableFromOutside d f .init := by
  have hplaced := hw.placed hd model
  rw [← hplace] at hplaced
  unfold Init.target
  generalize i.placement = place at hplaced hstatic
  cases hplaced with
  | topLevel hp => simp [CallsAsDeclared, CallableFromOutside, hp, hqualified]
  | companion hobject houter hp hcompanion hp' hclass =>
    rename_i object outer
    have hcalls : s.CallsAsDeclared m d f (.companion outer.qualifiedName i.name) :=
      ⟨hname.symm, object, hobject, outer, houter, hp, hcompanion, hp', hclass, rfl⟩
    simp only [hcalls, true_iff]
    intro object' hobject' hp'' _ hnone
    have hid : object'.id = object.id := Option.some.inj (hp''.symm.trans hp)
    obtain rfl := hw.eq_of_id_eq hobject' hobject hid
    rw [hp'] at hnone
    cases hnone
  | stray hobject hp hcompanion hp' =>
    rename_i object
    constructor
    · rintro ⟨-, object', hobject', outer, -, hp'', -, houter, -⟩
      have hid : object'.id = object.id := Option.some.inj (hp''.symm.trans hp)
      obtain rfl := hw.eq_of_id_eq hobject' hobject hid
      rw [hp'] at houter
      cases houter
    · intro hcallable
      exact absurd hp' (hcallable object hobject hp hcompanion)
  | nested => exact absurd rfl (hstatic _)

/-! ## The law of the targets -/

/-- A wrapper calls one target, and this calls the function that the wrapper was made for as it is
declared: a top level function under its qualified name, a function of the companion object of a
class, a method of the model, or an imported extension at top level. The exceptions are extensions
inside a class and init functions in a companion object outside every class, which are never called
as they are declared. -/
theorem targets_call_what_can_be_called_from_outside {files : List SourceFile}
    (hs : ofFiles files = .ok s) (config : Config) (hm : s.model? config id = some m)
    (hmem : w ∈ (s.unit config m).1.wrappers) :
    ∃ d ∈ s.declarations, ∃ f target, d.function? = some f ∧ s.MadeFor config m w d ∧
      w.function = d.qualifiedName ∧ w.targets = [target] ∧
      (s.CallsAsDeclared m d f target ↔ s.CallableFromOutside d f w.kind) := by
  have h := lists_ofFiles hs
  rcases wraps_of_mem_wrappers hmem with ⟨i, hi, hstatic, hwraps⟩ | ⟨i, hi, hwraps⟩
  · obtain ⟨model, d, hd, f, hf, hdecl, hname, hqualified, hplace⟩ := exists_of_init hm hi
    refine ⟨d, hd, f, i.target, hf, Or.inl ⟨i, hi, hdecl, hwraps⟩, ?_, ?_, ?_⟩
    · rw [hwraps.function, hqualified]
    · exact targets_of_initWrapper hwraps.made
    · rw [hwraps.kind]
      exact callsAsDeclared_target_iff h.wellNumbered hd hplace hstatic hname hqualified
  · have hintent := Model.mem_intents_of_mem_distinctIntents hi
    obtain ⟨d, hd, f, c, hf, -, htakes, rfl⟩ := (h.mem_intents_iff hm).mp hintent
    refine ⟨d, hd, f, (intentCall (intent config d f c)).1, hf, Or.inr ⟨_, hi, rfl, hwraps⟩,
      hwraps.function, ?_, ?_⟩
    · exact targets_of_intentWrapper hwraps.made
    · rw [hwraps.kind]
      exact callsAsDeclared_intentCall_iff htakes

/-- A lamp with an init function, a method, an extension and a free intent. -/
def lampFile : SourceFile where
  path := "app/Lamp.kt"
  package := "app"
  declarations :=
    let names : AnnotationNames := {}
    let lamp : TypeRef := { name := "app.Lamp" }
    let intent (name : String) : Node :=
      Node.functionNamed name |>.annotated { name := names.intent }
    [Node.classNamed "Lamp" |>.annotated { name := names.model }
      |>.withMember (Node.companion |>.withMember
        (Node.functionNamed "plugIn" |>.annotated { name := names.init } |>.returning lamp))
      |>.withMember (intent "toggle"),
    intent "blink" |>.onReceiver lamp,
    intent "dim" |>.withParameter "lamp" lamp]

theorem the_lamp_is_called_as_declared : ∃ s, ofFiles [lampFile] = .ok s ∧ ∃ m ∈ s.models {},
    (s.unit {} m).1.wrappers.map (fun w => (w.name, w.targets)) =
      [("initLamp", [.companion "app.Lamp" "plugIn"]), ("dimLamp", [.function "app.dim"]),
        ("toggleLamp", [.member "nextModel" "toggle" none]),
        ("blinkLamp", [.member "nextModel" "blink" (some "app.blink")])] ∧
    ∀ w ∈ (s.unit {} m).1.wrappers, ∃ d ∈ s.declarations, ∃ f target, d.function? = some f ∧
      s.MadeFor {} m w d ∧ w.targets = [target] ∧ s.CallsAsDeclared m d f target := by
  obtain ⟨s, hs, ⟨m, hm, htargets⟩, houtside⟩ := exists_ofFiles_singleton lampFile (fun s =>
    (∃ m ∈ s.models {}, (s.unit {} m).1.wrappers.map (fun w => (w.name, w.targets)) =
      [("initLamp", [.companion "app.Lamp" "plugIn"]), ("dimLamp", [.function "app.dim"]),
        ("toggleLamp", [.member "nextModel" "toggle" none]),
        ("blinkLamp", [.member "nextModel" "blink" (some "app.blink")])]) ∧
    ∀ d ∈ s.declarations, ∀ f ∈ d.function?, s.CallableFromOutside d f .init ∧
      s.CallableFromOutside d f .intent) (by decide +kernel)
  refine ⟨s, hs, m, hm, htargets, ?_⟩
  intro w hw
  obtain ⟨id, -, hid⟩ := List.mem_filterMap.mp hm
  obtain ⟨d, hd, f, target, hf, hmade, -, htarget, hcalls⟩ :=
    targets_call_what_can_be_called_from_outside hs {} hid hw
  obtain ⟨hinit, hintent⟩ := houtside d hd f hf
  refine ⟨d, hd, f, target, hf, hmade, htarget, hcalls.mpr ?_⟩
  cases w.kind with
  | init => exact hinit
  | intent => exact hintent

/-- A note with an extension of texts inside it, an extension of notes inside another class, and an
init function in a companion object at top level. -/
def noteFile : SourceFile where
  path := "app/Note.kt"
  package := "app"
  declarations :=
    let names : AnnotationNames := {}
    let note : TypeRef := { name := "app.Note" }
    let intent (name : String) : Node :=
      Node.functionNamed name |>.annotated { name := names.intent }
    [Node.classNamed "Note" |>.annotated { name := names.model }
      |>.withMember (intent "shout" |>.onReceiver { name := "kotlin.String" }),
    Node.companion |>.withMember
      (Node.functionNamed "open" |>.annotated { name := names.init } |>.returning note),
    Node.classNamed "Tools" |>.withMember (intent "trim" |>.onReceiver note)]

/-- The note is asked to shout though only texts inside it can, trimming is imported though it needs
its tools, and the note is asked for a companion object that it does not have. Nothing is found on
the way. -/
theorem the_note_is_asked_to_shout : ∃ s, ofFiles [noteFile] = .ok s ∧ ∃ m ∈ s.models {},
    (s.unit {} m).2 = [] ∧
    (s.unit {} m).1.wrappers.map (fun w => (w.function, w.targets)) =
      [("app.Companion.open", [.companion "app.Note" "open"]),
        ("app.Note.shout", [.member "nextModel" "shout" none]),
        ("app.Tools.trim", [.member "nextModel" "trim" (some "app.Tools.trim")])] ∧
    ∀ w ∈ (s.unit {} m).1.wrappers, ∀ d ∈ s.declarations, d.qualifiedName = w.function →
      ∀ f ∈ d.function?, ∀ target ∈ w.targets, ¬ s.CallsAsDeclared m d f target := by
  exact exists_ofFiles_singleton _ _ (by decide +kernel)

end Snapshot

end BoundaryGen
