-- The variables of a written wrapper. Every line declares at most one name, which no line before it
-- and no parameter has, and refers to parameters and to names that lines before it declare.
import Mathlib
import BoundaryGen.Proofs.Generation.Inspection
import BoundaryGen.Proofs.Wrapper.Meaning
import BoundaryGen.Wrapper.Kotlin

namespace BoundaryGen

/-! ## Variables -/

namespace Kotlin

mutual
/-- The variables that an expression refers to. -/
def Expr.vars : Expr → List String
  | .var name => [name]
  | .element list _ => list.vars
  | .decoded _ text => text.vars
  | .call _ arguments => varsOf arguments
  | .member receiver _ arguments => receiver.vars ++ varsOf arguments
  | .property receiver _ => receiver.vars
  | .null | .classOf _ | .quoted _ | .emptyObject _ => []
/-- The variables that some expressions refer to. -/
def varsOf : List Expr → List String
  | [] => []
  | e :: rest => e.vars ++ varsOf rest
end

namespace Statement

/-- The name that a statement declares. -/
def declares? : Statement → Option String
  | .val name _ => some name
  | .run _ | .giveBack _ | .giveBackLater _ => none

def value : Statement → Expr
  | .val _ value | .run value | .giveBack value | .giveBackLater value => value

/-- The variables that a statement refers to. -/
def vars (st : Statement) : List String := st.value.vars

end Statement

/-- The names that some statements declare, in their order. -/
def declared (sts : List Statement) : List String := sts.filterMap Statement.declares?

/-- Where the names in `known` are in sight, every statement refers to these and to names that
statements before it declare, and declares a name that is not in sight yet. -/
def Scoped : (known : List String) → List Statement → Prop
  | _, [] => True
  | known, st :: rest => (∀ x ∈ st.vars, x ∈ known) ∧ (∀ name ∈ st.declares?, name ∉ known) ∧
      Scoped (known ++ st.declares?.toList) rest

variable {known : List String} {sts sts' : List Statement} {st : Statement}

theorem declared_append : declared (sts ++ sts') = declared sts ++ declared sts' :=
  List.filterMap_append

theorem declared_cons : declared (st :: sts) = st.declares?.toList ++ declared sts := by
  cases h : st.declares? <;> simp [declared, h]

theorem scoped_append : Scoped known (sts ++ sts') ↔
    Scoped known sts ∧ Scoped (known ++ declared sts) sts' := by
  induction sts generalizing known with
  | nil => simp [Scoped, declared]
  | cons st sts ih =>
    rw [List.cons_append, Scoped, Scoped, ih, declared_cons, List.append_assoc]
    simp only [and_assoc]

/-- A statement refers to what was in sight at first and to what is declared before it. -/
theorem Scoped.mem_of_mem_vars {before after : List Statement}
    (h : Scoped known (before ++ st :: after)) {x : String} (hx : x ∈ st.vars) :
    x ∈ known ∨ x ∈ declared before := by
  rw [scoped_append] at h
  exact List.mem_append.mp (h.2.1 x hx)

theorem varsOf_vars (names : List String) : varsOf (names.map Expr.var) = names := by
  induction names with
  | nil => rfl
  | cons name names ih =>
    rw [List.map_cons, varsOf, ih]
    rfl

end Kotlin

/-! ## Steps -/

namespace Step

/-- The variables that a step refers to. The arguments are decoded from a list. -/
def reads : Step → List String
  | .decode _ _ _ => [Kotlin.listVariable]
  | .loadModel _ _ source => [source]
  | .call _ (.member receiver _ _) arguments => receiver :: arguments
  | .call _ (.function _) arguments | .call _ (.companion _ _) arguments => arguments
  | .retrieve step => step.source :: step.modelVariable.toList
  | .encode _ value _ => [value]
  | .giveBack var | .giveBackLater var => [var]

/-- The variables that are written for a step. -/
def writes : Step → List String
  | .decode var _ _ | .loadModel var _ _ | .encode var _ _ => [var]
  | .call result _ _ => result.toList
  | .retrieve step => [Kotlin.infoVariable, Kotlin.dataVariable, step.result]
  | .giveBack _ | .giveBackLater _ => []

end Step

namespace Kotlin

variable {known : List String} {usual : String}

theorem declared_statementsOf (usual : String) (step : Step) :
    declared (statementsOf usual step) = step.writes := by
  cases step with
  | call result => cases result <;> rfl
  | _ => rfl

theorem vars_valueFrom {step : RetrieveStep} {element : String} {neutral : Expr}
    (hneutral : neutral.vars = []) (v : ValueSource) :
    (valueFrom step element neutral v).vars ⊆ step.source :: step.modelVariable.toList := by
  cases v with
  | returned | inPair => simp [valueFrom, Expr.vars]
  | method _ name =>
    cases h : step.modelVariable <;> simp [valueFrom, h, hneutral, Expr.vars, varsOf]
  | companion | absent => simp [valueFrom, hneutral, Expr.vars, varsOf]

theorem vars_callOf (result : Option String) (target : CallTarget) (arguments : List String) :
    (callOf target arguments).vars = (Step.call result target arguments).reads := by
  cases target <;> simp only [callOf, Expr.vars, varsOf_vars] <;> rfl

theorem vars_retrieverCall (step : RetrieveStep) (dataType : TypeRef) :
    (retrieverCall step dataType).vars ⊆
      infoVariable :: dataVariable :: step.modelVariable.toList := by
  unfold retrieverCall
  split
  · rename_i hvar
    simp [hvar, Expr.vars, varsOf]
  · simp [Expr.vars, varsOf]

theorem scoped_cons {st : Statement} {rest : List Statement} (hvars : st.vars ⊆ known)
    (hfresh : (known ++ st.declares?.toList).Nodup)
    (hrest : Scoped (known ++ st.declares?.toList) rest) : Scoped known (st :: rest) :=
  ⟨fun _ hx => hvars hx, fun name hname hmem =>
    (List.nodup_append.mp hfresh).2.2 name hmem name (Option.mem_toList.mpr hname) rfl, hrest⟩

theorem scoped_retrieve (step : RetrieveStep) (hreads : (Step.retrieve step).reads ⊆ known)
    (hwrites : (known ++ (Step.retrieve step).writes).Nodup) :
    Scoped known (statementsOf usual (.retrieve step)) := by
  have hassoc : known ++ (Step.retrieve step).writes =
      known ++ [infoVariable] ++ [dataVariable] ++ [step.result] := by simp [Step.writes]
  rw [hassoc] at hwrites
  have hdata := (List.nodup_append.mp hwrites).1
  have hinfo := (List.nodup_append.mp hdata).1
  refine scoped_cons ?_ hinfo (scoped_cons ?_ hdata (scoped_cons ?_ hwrites trivial))
  · exact List.Subset.trans (vars_valueFrom rfl step.info) hreads
  · exact List.subset_append_of_subset_left _
      (List.Subset.trans (vars_valueFrom rfl step.data) hreads)
  · have hmodel : step.modelVariable.toList ⊆ known :=
      List.Subset.trans (List.subset_cons_self _ _) hreads
    refine List.Subset.trans (vars_retrieverCall step _) ?_
    simp only [Statement.declares?, Option.toList_some, List.cons_subset, List.mem_append,
      List.mem_singleton, or_true, true_or, true_and]
    exact fun x hx => List.mem_append_left _ (List.mem_append_left _ (hmodel hx))

/-- The statements of a step are in order when it reads what is in sight and writes new names. -/
theorem scoped_statementsOf (step : Step) (hreads : step.reads ⊆ known)
    (hwrites : (known ++ step.writes).Nodup) : Scoped known (statementsOf usual step) := by
  cases step with
  | decode | loadModel | encode | giveBack | giveBackLater =>
    exact scoped_cons hreads hwrites trivial
  | call result target arguments =>
    rw [← vars_callOf] at hreads
    cases result <;> exact scoped_cons hreads hwrites trivial
  | retrieve step => exact scoped_retrieve step hreads hwrites

end Kotlin

/-! ## Runs of steps -/

/-- Where the names in `known` are in sight, every step reads these and names that steps before it
write. -/
def InSight : (known : List String) → List Step → Prop
  | _, [] => True
  | known, step :: rest => step.reads ⊆ known ∧ InSight (known ++ step.writes) rest

/-- The names that some steps write, in their order. -/
def written (steps : List Step) : List String := steps.flatMap Step.writes

variable {known : List String} {steps steps' : List Step}

theorem written_cons (step : Step) : written (step :: steps) = step.writes ++ written steps :=
  List.flatMap_cons

theorem written_append : written (steps ++ steps') = written steps ++ written steps' :=
  List.flatMap_append

theorem inSight_append : InSight known (steps ++ steps') ↔
    InSight known steps ∧ InSight (known ++ written steps) steps' := by
  induction steps generalizing known with
  | nil => simp [InSight, written]
  | cons step steps ih =>
    rw [List.cons_append, InSight, InSight, ih, written_cons, List.append_assoc, and_assoc]

theorem Kotlin.declared_flatMap (usual : String) (steps : List Step) :
    declared (steps.flatMap (statementsOf usual)) = written steps := by
  induction steps with
  | nil => rfl
  | cons step steps ih =>
    rw [List.flatMap_cons, declared_append, declared_statementsOf, ih]
    rfl

/-- Steps that read what is in sight and write new names give statements in order. -/
theorem Kotlin.scoped_flatMap {usual : String} (h : InSight known steps)
    (hnodup : (known ++ written steps).Nodup) :
    Scoped known (steps.flatMap (statementsOf usual)) := by
  induction steps generalizing known with
  | nil => trivial
  | cons step steps ih =>
    rw [written_cons, ← List.append_assoc] at hnodup
    rw [List.flatMap_cons, scoped_append, declared_statementsOf]
    exact ⟨scoped_statementsOf step h.1 (List.nodup_append.mp hnodup).1, ih h.2 hnodup⟩

/-! ## The steps of wrappers -/

/-- The names that the steps of a wrapper write behind the decoding of its arguments. -/
def laterVariables : List String :=
  [modelVariable, resultVariable, Kotlin.infoVariable, Kotlin.dataVariable, retrievedVariable,
    savedVariable]

/-- Steps that stand behind the decoding of some parameters in a wrapper. -/
structure Continues (kind : WrapperKind) (parameters : List Parameter) (rest : List Step) :
    Prop where
  plain : ∀ step ∈ rest, step.isDecode = false
  reads : ∀ known, argumentVariables parameters ⊆ known →
    (kind = .intent → modelParameter ∈ known) → InSight known rest
  writes : (written rest).Sublist laterVariables

variable {parameters : List Parameter} {rest : List Step} {kind : WrapperKind}

theorem inSight_decodeSteps (start : Nat) (h : parameters ≠ [] → Kotlin.listVariable ∈ known) :
    InSight known (decodeSteps start parameters) := by
  induction parameters generalizing start known with
  | nil => trivial
  | cons p rest ih =>
    have hlist := h (List.cons_ne_nil p rest)
    refine ⟨by simpa [Step.reads] using hlist, ih (start + 1) fun _ => ?_⟩
    exact List.mem_append_left _ hlist

theorem written_decodeSteps (start : Nat) (parameters : List Parameter) :
    written (decodeSteps start parameters) =
      (List.range' start parameters.length).map argumentVariable := by
  induction parameters generalizing start with
  | nil => rfl
  | cons p rest ih =>
    rw [decodeSteps, written_cons, ih, List.length_cons, List.range'_succ, List.map_cons]
    rfl

/-- Steps decode something exactly when there are parameters to decode. -/
theorem Continues.any_isDecode (h : Continues kind parameters rest) :
    (decodeSteps 0 parameters ++ rest).any Step.isDecode = !parameters.isEmpty := by
  cases parameters with
  | nil => simpa [decodeSteps] using h.plain
  | cons p ps => rfl

namespace Snapshot

variable {m : Model} {later : Bool}

theorem inSight_closingSteps {value : String} (h : value ∈ known) :
    InSight known (closingSteps m value later) := by
  cases later <;> simp [InSight, closingSteps, Step.reads, Step.writes, h]

theorem inSight_resultSteps {intent : Option Intent} {binding : Option Binding}
    (hresult : resultVariable ∈ known) (hmodel : intent.isSome → modelVariable ∈ known) :
    InSight known (resultSteps m intent binding later) := by
  cases binding with
  | none => exact inSight_closingSteps hresult
  | some b =>
    refine ⟨?_, inSight_closingSteps ?_⟩
    · cases intent with
      | none => simpa [retrieveStep, Step.reads] using hresult
      | some i => simpa [retrieveStep, Step.reads] using ⟨hresult, hmodel rfl⟩
    · simp [retrieveStep, Step.writes]

theorem written_closingSteps (value : String) :
    written (closingSteps m value later) = [savedVariable] := by
  cases later <;> rfl

theorem written_resultSteps (intent : Option Intent) (binding : Option Binding) :
    (written (resultSteps m intent binding later)).Sublist
      [Kotlin.infoVariable, Kotlin.dataVariable, retrievedVariable, savedVariable] := by
  cases binding with
  | none =>
    rw [resultSteps, written_closingSteps]
    simp
  | some b =>
    rw [resultSteps, written_cons, written_closingSteps]
    exact List.Sublist.refl _

theorem plain_closingSteps {value : String} :
    ∀ step ∈ closingSteps m value later, step.isDecode = false := by
  intro step hstep
  cases closing_of_mem_closingSteps hstep <;> rfl

theorem plain_resultSteps {intent : Option Intent} {binding : Option Binding} :
    ∀ step ∈ resultSteps m intent binding later, step.isDecode = false := by
  intro step hstep
  rcases retrieve_or_closing_of_mem_resultSteps hstep with ⟨r, rfl⟩ | hclosing
  · rfl
  · cases hclosing <;> rfl

theorem reads_target (i : Init) (result : Option String) (arguments : List String) :
    (Step.call result i.target arguments).reads = arguments := by
  unfold Init.target
  cases i.placement <;> rfl

theorem reads_intentCall (i : Intent) (result : Option String) :
    (Step.call result (intentCall i).1 (intentCall i).2).reads =
      modelVariable :: argumentVariables i.arguments := by
  unfold intentCall
  cases i.convention <;> rfl

theorem continues_initSteps (m : Model) (i : Init) (binding : Option Binding) :
    Continues .init i.parameters (initSteps m i binding) where
  plain := List.forall_mem_cons.mpr ⟨rfl, plain_resultSteps⟩
  reads known harguments _ := by
    refine ⟨(reads_target i _ _).symm ▸ harguments, inSight_resultSteps ?_ fun h => by cases h⟩
    simp [Step.writes]
  writes := ((written_resultSteps none binding).cons_cons resultVariable).cons modelVariable

theorem continues_intentSteps (m : Model) (i : Intent) (binding : Option Binding) :
    Continues .intent i.arguments (intentSteps m i binding) := by
  have hload {known : List String} (h : modelParameter ∈ known) :
      (Step.loadModel modelVariable m.loadFunction modelParameter).reads ⊆ known := by
    simpa [Step.reads] using h
  have hcall {known : List String} (result : Option String)
      (h : argumentVariables i.arguments ⊆ known) :
      (Step.call result (intentCall i).1 (intentCall i).2).reads ⊆ known ++ [modelVariable] := by
    rw [reads_intentCall]
    exact List.cons_subset.mpr ⟨by simp, List.subset_append_of_subset_left _ h⟩
  unfold intentSteps
  split
  · refine ⟨?_, fun known harguments hmodel => ⟨hload (hmodel rfl), hcall _ harguments, ?_⟩, ?_⟩
    · exact List.forall_mem_cons.mpr ⟨rfl, List.forall_mem_cons.mpr ⟨rfl, plain_resultSteps⟩⟩
    · exact inSight_resultSteps (by simp [Step.writes]) fun _ => by simp [Step.writes]
    · exact ((written_resultSteps (some i) binding).cons_cons resultVariable).cons_cons
        modelVariable
  · refine ⟨?_, fun known harguments hmodel => ⟨hload (hmodel rfl), hcall _ harguments, ?_⟩, ?_⟩
    · exact List.forall_mem_cons.mpr ⟨rfl, List.forall_mem_cons.mpr ⟨rfl, plain_closingSteps⟩⟩
    · exact inSight_closingSteps (by simp [Step.writes])
    · rw [written_cons, written_cons, written_closingSteps]
      simp [Step.writes, laterVariables]

/-- A wrapper decodes some parameters and goes on from there. -/
theorem exists_continues {s : Snapshot} {config : Config} {w : Wrapper}
    (h : w ∈ (s.unit config m).1.wrappers) : ∃ name kind function later parameters rest,
      w = wrapperOf name kind function (decodeSteps 0 parameters ++ rest) later ∧
      Continues kind parameters rest := by
  rcases mem_wrappers_unit h with ⟨i, -, hok⟩ | ⟨i, -, hok⟩
  · obtain ⟨b, -, rfl⟩ := exists_of_initWrapper hok
    exact ⟨_, _, _, _, _, _, rfl, continues_initSteps m i b⟩
  · obtain ⟨b, -, rfl⟩ := exists_of_intentWrapper hok
    exact ⟨_, _, _, _, _, _, rfl, continues_intentSteps m i b⟩

end Snapshot

/-! ## Bodies -/

/-- The names in front of the arguments, the arguments, and the names behind them are different. -/
theorem nodup_variables {front later : List String}
    (hfront : front.Sublist [modelParameter, argumentsParameter, Kotlin.listVariable])
    (hlater : later.Sublist laterVariables) (parameters : List Parameter) :
    (front ++ argumentVariables parameters ++ later).Nodup := by
  have hfixed := hfront.append hlater
  have hperm : (front ++ argumentVariables parameters ++ later).Perm
      (argumentVariables parameters ++ (front ++ later)) := by
    rw [← List.append_assoc]
    exact List.perm_append_comm.append_right later
  rw [hperm.nodup_iff]
  refine List.nodup_append.mpr ⟨?_, hfixed.nodup (by decide), ?_⟩
  · exact List.nodup_range.map fun _ _ => Execution.argumentVariable_inj
  · intro x hx name hname
    obtain ⟨i, -, rfl⟩ := List.mem_map.mp hx
    have hhead : ∀ name ∈ [modelParameter, argumentsParameter, Kotlin.listVariable] ++
        laterVariables, name.toList.head? ≠ some 'a' := by decide
    exact Execution.argumentVariable_ne (hhead name (hfixed.subset hname)) i

namespace Kotlin

variable {usual : String} {w : Wrapper}

theorem body_eq_flatMap (h : ∀ step ∈ rest, step.isDecode = false) :
    body usual rest = rest.flatMap (statementsOf usual) := by
  induction rest with
  | nil => rfl
  | cons step rest ih =>
    obtain ⟨hstep, hrest⟩ := List.forall_mem_cons.mp h
    rw [body, if_neg (by simp [hstep]), ih hrest, List.flatMap_cons]

/-- Where there is something to decode, the list of argument texts is made first. -/
theorem body_decodeSteps (start : Nat) (h : ∀ step ∈ rest, step.isDecode = false) :
    body usual (decodeSteps start parameters ++ rest) =
      (if parameters = [] then [] else [listStatement]) ++
        (decodeSteps start parameters ++ rest).flatMap (statementsOf usual) := by
  cases parameters with
  | nil => exact body_eq_flatMap h
  | cons p ps => rfl

/-- The parameters of a wrapper that decodes some parameters. -/
def boundary (kind : WrapperKind) (parameters : List Parameter) : List String :=
  (if kind = .intent then [modelParameter] else []) ++
    if parameters = [] then [] else [argumentsParameter]

/-- The variable of the list of argument texts, if there is something to decode. -/
def lists (parameters : List Parameter) : List String :=
  if parameters = [] then [] else [listVariable]

theorem parameters_wrapperOf (h : Continues kind parameters rest) (name function : String)
    (later : Bool) :
    (wrapperOf name kind function (decodeSteps 0 parameters ++ rest) later).parameters =
      boundary kind parameters := by
  rw [wrapperOf, h.any_isDecode, boundary]
  cases parameters <;> rfl

theorem declared_body (h : Continues kind parameters rest) :
    declared (body usual (decodeSteps 0 parameters ++ rest)) =
      lists parameters ++ argumentVariables parameters ++ written rest := by
  have hlist : declared (if parameters = [] then [] else [listStatement]) = lists parameters := by
    unfold lists
    split <;> rfl
  rw [body_decodeSteps 0 h.plain, declared_append, hlist, declared_flatMap, written_append,
    written_decodeSteps, ← List.range_eq_range', ← List.append_assoc, argumentVariables]

theorem nodup_body (h : Continues kind parameters rest) :
    (boundary kind parameters ++
      declared (body usual (decodeSteps 0 parameters ++ rest))).Nodup := by
  rw [declared_body h, ← List.append_assoc, ← List.append_assoc]
  refine nodup_variables ?_ h.writes parameters
  unfold boundary lists
  by_cases hempty : parameters = []
  · rw [if_pos hempty, if_pos hempty]
    cases kind <;> decide
  · rw [if_neg hempty, if_neg hempty]
    cases kind <;> decide

/-- The statements of a wrapper are in order where its parameters are in sight. -/
theorem scoped_body (h : Continues kind parameters rest) :
    Scoped (boundary kind parameters) (body usual (decodeSteps 0 parameters ++ rest)) := by
  have hnodup : (boundary kind parameters ++
      declared (body usual (decodeSteps 0 parameters ++ rest))).Nodup := nodup_body h
  rw [body_decodeSteps 0 h.plain] at hnodup ⊢
  rw [declared_append, ← List.append_assoc] at hnodup
  refine scoped_append.mpr ⟨?_, scoped_flatMap (inSight_append.mpr ⟨?_, h.reads _ ?_ ?_⟩) ?_⟩
  · by_cases hempty : parameters = []
    · rw [if_pos hempty]
      trivial
    · rw [boundary, if_neg hempty, if_neg hempty]
      refine scoped_cons ?_ ?_ trivial
      · simp [listStatement, Statement.vars, Statement.value, Expr.vars]
      · cases kind <;> decide
  · refine inSight_decodeSteps 0 fun hne => ?_
    rw [if_neg hne]
    simp [declared, listStatement, Statement.declares?]
  · rw [written_decodeSteps, ← List.range_eq_range']
    exact List.subset_append_right _ _
  · rintro rfl
    simp [boundary]
  · rwa [declared_flatMap] at hnodup

end Kotlin

namespace Snapshot

variable {s : Snapshot} {config : Config} {m : Model} {w : Wrapper}

/-- The statements of a wrapper are those of its steps, one step behind the other. In front of them
the list of argument texts is made when an argument is decoded. -/
theorem body_of_mem_wrappers (h : w ∈ (s.unit config m).1.wrappers) (usual : String) :
    Kotlin.body usual w.steps =
      (if ∃ step ∈ w.steps, step.isDecode = true then [Kotlin.listStatement] else []) ++
        w.steps.flatMap (Kotlin.statementsOf usual) := by
  obtain ⟨name, kind, function, later, parameters, rest, rfl, hrest⟩ := exists_continues h
  have hdecodes : (∃ step ∈ decodeSteps 0 parameters ++ rest, step.isDecode = true) ↔
      parameters ≠ [] := by
    rw [← List.any_eq_true, hrest.any_isDecode]
    cases parameters <;> simp
  rw [wrapperOf, Kotlin.body_decodeSteps 0 hrest.plain]
  simp only [hdecodes, ne_eq, ite_not]

/-- The statements of a wrapper are in order. -/
theorem scoped_of_mem_wrappers (h : w ∈ (s.unit config m).1.wrappers) (usual : String) :
    Kotlin.Scoped w.parameters (Kotlin.body usual w.steps) := by
  obtain ⟨name, kind, function, later, parameters, rest, rfl, hrest⟩ := exists_continues h
  rw [Kotlin.parameters_wrapperOf hrest]
  exact Kotlin.scoped_body hrest

/-- A wrapper declares each of its names once, and none that a parameter has. -/
theorem nodup_of_mem_wrappers (h : w ∈ (s.unit config m).1.wrappers) (usual : String) :
    (w.parameters ++ Kotlin.declared (Kotlin.body usual w.steps)).Nodup := by
  obtain ⟨name, kind, function, later, parameters, rest, rfl, hrest⟩ := exists_continues h
  rw [Kotlin.parameters_wrapperOf hrest]
  exact Kotlin.nodup_body hrest

/-- A wrapper makes the list of argument texts exactly when it decodes an argument. -/
theorem list_mem_declared_iff (h : w ∈ (s.unit config m).1.wrappers) (usual : String) :
    Kotlin.listVariable ∈ Kotlin.declared (Kotlin.body usual w.steps) ↔
      ∃ step ∈ w.steps, step.isDecode = true := by
  obtain ⟨name, kind, function, later, parameters, rest, rfl, hrest⟩ := exists_continues h
  have hlater : Kotlin.listVariable ∉ written rest := fun hmem =>
    absurd (hrest.writes.subset hmem) (by decide)
  have hargument : Kotlin.listVariable ∉ argumentVariables parameters := by
    intro hmem
    obtain ⟨i, -, hi⟩ := List.mem_map.mp hmem
    exact Execution.argumentVariable_ne (by decide) i hi
  rw [wrapperOf, ← List.any_eq_true, hrest.any_isDecode, Kotlin.declared_body hrest, Kotlin.lists]
  cases parameters <;> simp [hlater, hargument]

end Snapshot

end BoundaryGen
