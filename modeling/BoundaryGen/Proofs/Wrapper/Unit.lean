-- Where the wrappers of a unit come from: each was made for the init function
-- or for an intent of the model, and these were read off declared functions.
import Mathlib
import BoundaryGen.Wrapper.Synthesis

namespace BoundaryGen

/-! ## What the steps of wrappers are -/

/-- A step that saves the next state or gives it back. -/
inductive Step.Closing : Step → Prop
  | encode (var value function : String) : Closing (.encode var value function)
  | giveBack (var : String) : Closing (.giveBack var)
  | giveBackLater (var : String) : Closing (.giveBackLater var)

section
variable {α : Type} {pick : Step → Option α} {step : Step}

theorem closing_of_mem_closingSteps {m : Model} {value : String} {later : Bool}
    (h : step ∈ closingSteps m value later) : step.Closing := by
  unfold closingSteps at h
  rcases List.mem_pair.mp h with rfl | rfl
  · exact .encode _ _ _
  · cases later
    · exact .giveBack _
    · exact .giveBackLater _

/-- Nothing is picked from the last steps that is not picked from a closing step. -/
theorem filterMap_closingSteps (h : ∀ {step : Step}, step.Closing → pick step = none) (m : Model)
    (value : String) (later : Bool) : (closingSteps m value later).filterMap pick = [] :=
  List.filterMap_eq_nil_iff.mpr fun _ hstep => h (closing_of_mem_closingSteps hstep)

theorem exists_of_mem_decodeSteps {start : Nat} {parameters : List Parameter}
    (h : step ∈ decodeSteps start parameters) :
    ∃ i type, step = .decode (argumentVariable i) i type := by
  induction parameters generalizing start with
  | nil => cases h
  | cons p rest ih =>
    rcases List.mem_cons.mp h with rfl | h
    · exact ⟨start, p.type, rfl⟩
    · exact ih h

theorem filterMap_decodeSteps (h : ∀ var index type, pick (.decode var index type) = none)
    (start : Nat) (parameters : List Parameter) :
    (decodeSteps start parameters).filterMap pick = [] := by
  refine List.filterMap_eq_nil_iff.mpr fun step hstep => ?_
  obtain ⟨i, type, rfl⟩ := exists_of_mem_decodeSteps hstep
  exact h _ i type

end

/-- The arguments of an intent are its parameters, without the first one of a free function. -/
theorem Intent.arguments_eq (i : Intent) :
    i.arguments = if i.convention = .free then i.parameters.tail else i.parameters := by
  unfold arguments
  cases i.convention <;> simp

namespace Snapshot

variable {s : Snapshot} {config : Config}

theorem returnsModel_iff {m : Model} {i : Intent} : returnsModel m i = true ↔
    ∃ type ∈ i.returnType, type.nullable = false ∧ type.name = m.qualifiedName := by
  unfold returnsModel
  cases i.returnType <;> simp

/-! ## Steps behind the decoded arguments -/

/-- The binding that a function asks for, if it asks for one. -/
def bindingFor (s : Snapshot) (config : Config) (m : Model) (site : Site) (function : DeclId)
    (usesRetriever : Bool) : Except RetrieverMissing (Option Binding) :=
  if usesRetriever then some <$> s.bindAt config function m.decl site else .ok none

/-- The steps behind a call whose result is kept: a retriever makes the next state of it, or it
is the next state. -/
def resultSteps (m : Model) (intent : Option Intent) (binding : Option Binding) (later : Bool) :
    List Step :=
  match binding with
  | none => closingSteps m resultVariable later
  | some b => retrieveStep b m intent :: closingSteps m retrievedVariable later

/-- The steps of an init function behind the decoding of its arguments. -/
def initSteps (m : Model) (i : Init) (binding : Option Binding) : List Step :=
  .call (some resultVariable) i.target (argumentVariables i.parameters)
    :: resultSteps m none binding i.isSuspending

theorem retrieve_or_closing_of_mem_resultSteps {m : Model} {intent : Option Intent}
    {binding : Option Binding} {later : Bool} {step : Step}
    (h : step ∈ resultSteps m intent binding later) : (∃ r, step = .retrieve r) ∨ step.Closing := by
  cases binding with
  | none => exact Or.inr (closing_of_mem_closingSteps h)
  | some b =>
    rcases List.mem_cons.mp h with rfl | h
    · exact Or.inl ⟨_, rfl⟩
    · exact Or.inr (closing_of_mem_closingSteps h)

/-- What is picked neither from a step that asks a retriever nor from a closing step is not picked
behind a call. -/
theorem filterMap_resultSteps {α : Type} {pick : Step → Option α}
    (hretrieve : ∀ r, pick (.retrieve r) = none)
    (hclosing : ∀ {step : Step}, step.Closing → pick step = none) (m : Model)
    (intent : Option Intent) (binding : Option Binding) (later : Bool) :
    (resultSteps m intent binding later).filterMap pick = [] := by
  refine List.filterMap_eq_nil_iff.mpr fun step hstep => ?_
  rcases retrieve_or_closing_of_mem_resultSteps hstep with ⟨r, rfl⟩ | hstep
  · exact hretrieve r
  · exact hclosing hstep

theorem initWrapper_eq (s : Snapshot) (config : Config) (m : Model) (i : Init) :
    s.initWrapper config m i = (fun b =>
      wrapperOf ("init" ++ m.name) .init i.qualifiedName
        (decodeSteps 0 i.parameters ++ initSteps m i b) i.isSuspending)
        <$> bindingFor s config m .init i.decl i.usesRetriever := by
  unfold initWrapper bindingFor initSteps resultSteps
  rcases i.usesRetriever
  · simp; rfl
  · rcases s.bindAt config i.decl m.decl .init with e | b
    · rfl
    · simp

/-- The steps of an intent behind the decoding of its arguments. -/
def intentSteps (m : Model) (i : Intent) (binding : Option Binding) : List Step :=
  .loadModel modelVariable m.loadFunction modelParameter
    :: if binding.isSome || returnsModel m i then
      .call (some resultVariable) (intentCall i).1 (intentCall i).2
        :: resultSteps m (some i) binding i.isSuspending
    else
      .call none (intentCall i).1 (intentCall i).2
        :: closingSteps m modelVariable i.isSuspending

theorem intentWrapper_eq (s : Snapshot) (config : Config) (m : Model) (i : Intent) :
    s.intentWrapper config m i = (fun b =>
      wrapperOf (i.name ++ m.name) .intent i.qualifiedName
        (decodeSteps 0 i.arguments ++ intentSteps m i b) i.isSuspending)
        <$> bindingFor s config m .intent i.decl i.usesRetriever := by
  unfold intentWrapper bindingFor intentSteps resultSteps
  rcases i.usesRetriever
  · rcases returnsModel m i <;> simp <;> rfl
  · rcases s.bindAt config i.decl m.decl .intent with e | b
    · rfl
    · simp

/-! ## Wrappers -/

theorem exists_of_map_eq_ok {ε α β : Type} {f : α → β} {x : Except ε α} {b : β}
    (h : f <$> x = .ok b) : ∃ a, x = .ok a ∧ f a = b := by
  rcases x with e | a
  · cases h
  · cases h
    exact ⟨a, rfl, rfl⟩

/-- The wrapper of an init function is made from its binding. -/
theorem exists_of_initWrapper {m : Model} {i : Init} {w : Wrapper}
    (h : s.initWrapper config m i = .ok w) :
    ∃ b, bindingFor s config m .init i.decl i.usesRetriever = .ok b ∧
      wrapperOf ("init" ++ m.name) .init i.qualifiedName
        (decodeSteps 0 i.parameters ++ initSteps m i b) i.isSuspending = w := by
  rw [initWrapper_eq] at h
  exact exists_of_map_eq_ok h

/-- The wrapper of an intent is made from its binding. -/
theorem exists_of_intentWrapper {m : Model} {i : Intent} {w : Wrapper}
    (h : s.intentWrapper config m i = .ok w) :
    ∃ b, bindingFor s config m .intent i.decl i.usesRetriever = .ok b ∧
      wrapperOf (i.name ++ m.name) .intent i.qualifiedName
        (decodeSteps 0 i.arguments ++ intentSteps m i b) i.isSuspending = w := by
  rw [intentWrapper_eq] at h
  exact exists_of_map_eq_ok h

theorem reported_fst_eq_some {result : Except RetrieverMissing Wrapper} {w : Wrapper} :
    (reported result).1 = some w ↔ result = .ok w := by
  rcases result with e | w' <;> simp [reported]

theorem initOutcome_fst_eq_some {m : Model} {w : Wrapper}
    (h : (s.initOutcome config m).1 = some w) :
    ∃ i, m.init = some i ∧ s.initWrapper config m i = .ok w := by
  unfold initOutcome at h
  split at h
  · rename_i i _ hi
    exact ⟨i, hi, reported_fst_eq_some.mp h⟩
  · cases h

/-- A wrapper of a unit is the wrapper of the init function or of an intent. -/
theorem mem_wrappers_unit {m : Model} {w : Wrapper} (h : w ∈ (s.unit config m).1.wrappers) :
    (∃ i, m.init = some i ∧ s.initWrapper config m i = .ok w) ∨
      ∃ i ∈ m.distinctIntents, s.intentWrapper config m i = .ok w := by
  simp only [WrapperUnit.wrappers, unit, List.mem_append, Option.mem_toList,
    List.mem_filterMap, List.mem_map] at h
  rcases h with h | ⟨_, ⟨i, hi, rfl⟩, hw⟩
  · exact Or.inl (initOutcome_fst_eq_some h)
  · exact Or.inr ⟨i, hi, reported_fst_eq_some.mp hw⟩

/-! ## Declared functions -/

/-- The snapshot declares a function with these parts. -/
def Declares (s : Snapshot) (id : DeclId) (name qualifiedName : String)
    (parameters : List Parameter) (returnType : Option TypeRef) : Prop :=
  ∃ d ∈ s.declarations, ∃ f, d.function? = some f ∧ d.id = id ∧ d.simpleName = name ∧
    d.qualifiedName = qualifiedName ∧ f.parameters = parameters ∧ f.returnType = returnType

theorem mem_declarations_of_get? {id : DeclId} {d : Declaration} (h : s.get? id = some d) :
    d ∈ s.declarations := Array.mem_of_getElem? h

/-- An annotated function is declared. -/
theorem exists_get?_of_functionsAnnotated {name : String} {d : Declaration} {f : FunctionShape}
    (h : (d, f) ∈ s.functionsAnnotated name) :
    ∃ id, s.get? id = some d ∧ d.function? = some f := by
  unfold functionsAnnotated at h
  obtain ⟨id, -, hid⟩ := List.mem_filterMap.mp h
  simp only [Option.bind_eq_bind, Option.bind_eq_some_iff, Option.pure_def,
    Option.some.injEq, Prod.mk.injEq] at hid
  obtain ⟨d, hd, f, hf, rfl, rfl⟩ := hid
  exact ⟨id, hd, hf⟩

theorem mem_of_mem_firstOfEach {seen : List DeclId} {pairs : List (DeclId × Convention)}
    {pair : DeclId × Convention} (h : pair ∈ firstOfEach seen pairs) : pair ∈ pairs := by
  induction pairs generalizing seen with
  | nil => cases h
  | cons first rest ih =>
    unfold firstOfEach at h
    split at h
    · exact List.mem_cons_of_mem first (ih h)
    · rcases List.mem_cons.mp h with rfl | h
      · exact List.mem_cons_self
      · exact List.mem_cons_of_mem first (ih h)

theorem declares_of_intentOf? {id : DeclId} {convention : Convention} {i : Intent}
    (h : s.intentOf? config id convention = some i) :
    s.Declares i.decl i.name i.qualifiedName i.parameters i.returnType := by
  simp only [intentOf?, Option.bind_eq_bind, Option.bind_eq_some_iff, Option.pure_def,
    Option.some.injEq] at h
  obtain ⟨d, hd, f, hf, rfl⟩ := h
  exact ⟨d, mem_declarations_of_get? hd, f, hf, rfl, rfl, rfl, rfl, rfl⟩

theorem declares_of_initOf? {id : DeclId} {model : Declaration} {i : Init}
    (h : s.initOf? config id model = some i) :
    s.Declares i.decl i.name i.qualifiedName i.parameters i.returnType := by
  simp only [initOf?, Option.bind_eq_bind, Option.bind_eq_some_iff, Option.pure_def,
    Option.some.injEq] at h
  obtain ⟨d, hd, f, hf, rfl⟩ := h
  exact ⟨d, mem_declarations_of_get? hd, f, hf, rfl, rfl, rfl, rfl, rfl⟩

theorem declares_of_mem_intents {id : DeclId} {m : Model} {i : Intent}
    (hm : s.model? config id = some m) (hi : i ∈ m.intents) :
    s.Declares i.decl i.name i.qualifiedName i.parameters i.returnType := by
  simp only [model?, Option.bind_eq_bind, Option.bind_eq_some_iff, Option.pure_def,
    Option.some.injEq] at hm
  obtain ⟨d, -, rfl⟩ := hm
  simp only [intents, List.mem_append, List.mem_filterMap] at hi
  rcases hi with ⟨_, -, h⟩ | ⟨_, -, h⟩
  · exact declares_of_intentOf? h
  · exact declares_of_intentOf? h

theorem declares_of_init {id : DeclId} {m : Model} {i : Init}
    (hm : s.model? config id = some m) (hi : m.init = some i) :
    s.Declares i.decl i.name i.qualifiedName i.parameters i.returnType := by
  simp only [model?, Option.bind_eq_bind, Option.bind_eq_some_iff, Option.pure_def,
    Option.some.injEq] at hm
  obtain ⟨d, -, rfl⟩ := hm
  obtain ⟨_, -, h⟩ := Option.bind_eq_some_iff.mp hi
  exact declares_of_initOf? h

end Snapshot

end BoundaryGen
