-- What a wrapper means: the arguments are decoded, the function is called once,
-- and the next state is saved. The steps of every wrapper of a unit run to just
-- that, on every host, and no run ends in a fault.
import Mathlib
import BoundaryGen.Proofs.Model.RepeatedNames
import BoundaryGen.Proofs.Wrapper.Execution
import BoundaryGen.Proofs.Wrapper.Unit
import BoundaryGen.Source.Build

namespace BoundaryGen.Execution

open Snapshot (bindingFor resultSteps initSteps intentSteps exists_of_initWrapper
  exists_of_intentWrapper)

variable {M : Type → Type} [Monad M] {V : Type}

/-! ## The meaning of functions -/

/-- Decodes each parameter at its own type, from the element at its own place. -/
def decodeFrom (host : Host M V) (items : List String) (start : Nat)
    (parameters : List Parameter) : M (List V) :=
  (parameters.zipIdx start).mapM fun (p, i) => host.decode p.type items[i]?

/-- How an init function is called. -/
def initCallee (i : Init) : Callee :=
  match i.placement with
  | .companion owner => .companion owner i.name
  | .topLevel | .nested _ => .function i.qualifiedName

/-- The first state of a model: what the init function makes of the arguments, or what the
retriever makes of that. It is saved by the function of the unit. -/
def initMeaning (host : Host M V) (u : WrapperUnit) (m : Model) (i : Init)
    (binding : Option Binding) (items : List String) : M Outcome := do
  let arguments ← decodeFrom host items 0 i.parameters
  let result ← host.call (initCallee i) none arguments
  let state ← match binding with
    | none => pure result
    | some binding => host.retrieve {
        binding, modelType := m.type, modelName := m.qualifiedName, intentName := none,
        source := result, model := none }
  return { text := ← host.save u.saveFunction state, later := i.isAsync || i.usesRetriever }

/-- Calls an intent on a model: as the first argument of a free function, as the receiver of a
member. -/
def callIntent (host : Host M V) (i : Intent) (model : V) (arguments : List V) : M V :=
  match i.convention with
  | .free => host.call (.function i.qualifiedName) none (model :: arguments)
  | .method => host.call (.member i.name none) (some model) arguments
  | .extension => host.call (.member i.name (some i.qualifiedName)) (some model) arguments

/-- The next state of a model: what the retriever makes of the result of the intent; without a
retriever the result itself when it is a model by its declared type, and else the model that the
intent worked on. The arguments are the declared parameters; the first one of a free function is the
model and none of them. The functions of the unit load the model and save the state. -/
def intentMeaning (host : Host M V) (u : WrapperUnit) (m : Model) (i : Intent)
    (binding : Option Binding) (modelText : String) (items : List String) : M Outcome := do
  let arguments ← decodeFrom host items 0 <|
    if i.convention = .free then i.parameters.tail else i.parameters
  let model ← host.load u.loadFunction modelText
  let result ← callIntent host i model arguments
  let state ← match binding with
    | none => pure <|
      if ∃ type ∈ i.returnType, type.nullable = false ∧ type.name = m.qualifiedName then result
      else model
    | some binding => host.retrieve {
        binding, modelType := m.type, modelName := m.qualifiedName, intentName := some i.name,
        source := result, model := some model }
  return { text := ← host.save u.saveFunction state, later := i.isAsync || i.usesRetriever }

/-! ## The names of variables -/

theorem argumentVariable_inj {i j : Nat} (h : argumentVariable i = argumentVariable j) :
    i = j := by
  unfold argumentVariable at h
  exact Nat.repr_injective (String.append_right_inj _ |>.mp h)

/-- No variable of an argument has a name that starts with another letter. -/
theorem argumentVariable_ne {name : String} (h : name.toList.head? ≠ some 'a') (i : Nat) :
    argumentVariable i ≠ name := by
  rintro rfl
  exact h (by simp [argumentVariable])

/-! ## Variables of arguments -/

section
variable {env : Env V}

theorem lookup_cons_of_ne {a b : String} (x : Slot V) (h : a ≠ b) :
    ((a, x) :: env).lookup b = env.lookup b := by
  rw [List.lookup_cons, beq_false_of_ne h.symm]

/-- The variables after the values `vs` were decoded for the places from `start` on. -/
def withArguments (env : Env V) (start : Nat) : List V → Env V
  | [] => env
  | v :: vs => withArguments ((argumentVariable start, .value v) :: env) (start + 1) vs

theorem lookup_withArguments_of_ne {name : String} {start : Nat} (vs : List V)
    (h : ∀ i, start ≤ i → argumentVariable i ≠ name) :
    (withArguments env start vs).lookup name = env.lookup name := by
  induction vs generalizing env start with
  | nil => rfl
  | cons v vs ih =>
    rw [withArguments, ih fun i hi => h i (by omega), lookup_cons_of_ne _ (h start (by omega))]

theorem lookup_withArguments {start k : Nat} {vs : List V} (h : k < vs.length) :
    (withArguments env start vs).lookup (argumentVariable (start + k)) = vs[k]?.map .value := by
  induction vs generalizing env start k with
  | nil => simp at h
  | cons v vs ih =>
    rw [withArguments]
    rcases k with _ | k
    · rw [lookup_withArguments_of_ne]
      · simp
      · intro i hi he
        have := argumentVariable_inj he
        omega
    · rw [List.getElem?_cons_succ, Nat.add_comm k 1, ← Nat.add_assoc]
      exact ih (Nat.lt_of_succ_lt_succ h)

theorem readValues_of_lookup {start : Nat} {vs : List V}
    (h : ∀ k, k < vs.length → env.lookup (argumentVariable (start + k)) = vs[k]?.map .value) :
    readValues env ((List.range' start vs.length).map argumentVariable) = .ok vs := by
  induction vs generalizing start with
  | nil => rfl
  | cons v vs ih =>
    have hfirst : env.lookup (argumentVariable start) = some (.value v) := by
      simpa using h 0 (by simp)
    have hrest := @ih (start + 1) fun k hk => by
      have := h (k + 1) (Nat.succ_lt_succ hk)
      rwa [List.getElem?_cons_succ, Nat.add_comm k 1, ← Nat.add_assoc] at this
    unfold readValues at hrest ⊢
    rw [List.length_cons, List.range'_succ, List.map_cons, List.mapM_cons, hrest]
    simp only [readValue, hfirst]
    rfl

end

/-! ## Steps -/

section
variable {host : Host M V} {env : Env V} {rest : List Step}

@[simp]
theorem liftM_ok {α : Type} (a : α) :
    (liftM (Except.ok a : Except Fault α) : ExceptT Fault M α) = pure a := rfl

variable [LawfulMonad M]

theorem run_decode {items : List String} {var : String} (index : Nat) (type : TypeRef)
    (hp : env.lookup argumentsParameter = some (.texts items)) (hv : env.lookup var = none) :
    run host env (.decode var index type :: rest) = (do
      let v ← host.decode type items[index]?
      run host ((var, .value v) :: env) rest) := by
  simp [run, step, readTexts, set, hp, hv]

theorem run_loadModel {var source s : String} (function : String)
    (hs : env.lookup source = some (.text s)) (hv : env.lookup var = none) :
    run host env (.loadModel var function source :: rest) = (do
      let v ← host.load function s
      run host ((var, .value v) :: env) rest) := by
  simp [run, step, readText, set, hs, hv]

theorem run_call (target : CallTarget) {result : Option String} {arguments : List String}
    {receiver : Option V} {vs : List V}
    (hr : readOptional env (calleeOf target).2 = .ok receiver)
    (ha : readValues env arguments = .ok vs)
    (hv : ∀ var, result = some var → env.lookup var = none) :
    run host env (.call result target arguments :: rest) = (do
      let v ← host.call (calleeOf target).1 receiver vs
      run host ((result.map fun var => (var, .value v)).toList ++ env) rest) := by
  rcases result with _ | var
  · simp [run, step, hr, ha, setOptional]
  · simp [run, step, hr, ha, setOptional, set, hv var rfl]

theorem run_retrieve {r : RetrieveStep} {source : V} {model : Option V}
    (hs : readValue env r.source = .ok source)
    (hm : readOptional env r.modelVariable = .ok model) (hv : env.lookup r.result = none) :
    run host env (.retrieve r :: rest) = (do
      let v ← host.retrieve {
        binding := { retriever := r.retriever, info := r.info, data := r.data }
        modelType := r.modelType, modelName := r.modelName, intentName := r.intentName,
        source, model }
      run host ((r.result, .value v) :: env) rest) := by
  simp [run, step, hs, hm, set, hv]

theorem run_closing (host : Host M V) (m : Model) {value : String} {v : V} (later : Bool)
    (hr : env.lookup value = some (.value v)) (hv : env.lookup savedVariable = none) :
    run host env (closingSteps m value later) = (do
      let s ← host.save m.saveFunction v
      return { text := s, later }) := by
  cases later <;> simp [closingSteps, run, step, readValue, readText, set, hr, hv]

/-- Decoding runs through: what follows it runs with a value for each argument. -/
theorem run_decodeSteps {items : List String} {start : Nat} {parameters : List Parameter}
    (hp : parameters ≠ [] → env.lookup argumentsParameter = some (.texts items))
    (hv : ∀ i, start ≤ i → env.lookup (argumentVariable i) = none)
    {k : List V → ExceptT Fault M Outcome}
    (hk : ∀ vs, vs.length = parameters.length →
      run host (withArguments env start vs) rest = k vs) :
    run host env (decodeSteps start parameters ++ rest) =
      liftM (decodeFrom host items start parameters) >>= k := by
  induction parameters generalizing env start k with
  | nil => simpa [decodeSteps, decodeFrom, withArguments] using hk [] rfl
  | cons p ps ih =>
    have hne : argumentVariable start ≠ argumentsParameter :=
      argumentVariable_ne (by decide) start
    rw [decodeSteps, List.cons_append, run_decode start p.type (hp (by simp)) (hv _ (by omega))]
    simp only [decodeFrom, List.zipIdx_cons, List.mapM_cons, monadLift_bind, monadLift_pure,
      bind_assoc, pure_bind]
    refine bind_congr fun v => ?_
    refine ih (k := fun vs => k (v :: vs)) ?_ ?_ ?_
    · intro _
      rw [lookup_cons_of_ne _ hne]
      exact hp (by simp)
    · intro i hi
      rw [lookup_cons_of_ne]
      · exact hv i (by omega)
      · intro he
        have := argumentVariable_inj he
        omega
    · intro vs hlen
      exact hk (v :: vs) (by simp [hlen])

theorem run_retrieving (host : Host M V) {m : Model} {intent : Option Intent} {source : V}
    {model : Option V} (binding : Binding) (later : Bool)
    (hs : env.lookup resultVariable = some (.value source))
    (hm : readOptional env (intent.map fun _ => modelVariable) = .ok model)
    (hr : env.lookup retrievedVariable = none) (hv : env.lookup savedVariable = none) :
    run host env (retrieveStep binding m intent :: closingSteps m retrievedVariable later) = (do
      let v ← host.retrieve {
        binding, modelType := m.type, modelName := m.qualifiedName,
        intentName := intent.map (·.name), source, model }
      let s ← host.save m.saveFunction v
      return { text := s, later }) := by
  have hsource : readValue env resultVariable = .ok source := by simp [readValue, hs]
  rw [retrieveStep, run_retrieve hsource hm hr]
  refine bind_congr fun v => run_closing host m later (List.lookup_cons_self ..) ?_
  have hne : retrievedVariable ≠ savedVariable := by decide
  rw [lookup_cons_of_ne _ hne]
  exact hv

/-! ## The boundary -/

theorem any_isDecode_decodeSteps (start : Nat) (parameters : List Parameter) :
    (decodeSteps start parameters).any Step.isDecode = !parameters.isEmpty := by
  cases parameters <;> rfl

theorem lookup_boundary (w : Wrapper) (modelText : String) (items : List String)
    (name : String) :
    (boundary (V := V) w modelText items).lookup name =
      if name ∈ w.parameters then some (given modelText items name) else none := by
  unfold boundary
  induction w.parameters with
  | nil => rfl
  | cons p ps ih =>
    by_cases h : p = name
    · subst h; simp
    · rw [List.map_cons, lookup_cons_of_ne _ h, ih]
      simp [Ne.symm h]

/-- A wrapper has no other parameters than the two of the boundary. -/
theorem lookup_boundary_of_ne {name function : String} {kind : WrapperKind} {steps : List Step}
    {later : Bool} {x : String} (modelText : String) (items : List String)
    (h1 : x ≠ modelParameter) (h2 : x ≠ argumentsParameter) :
    (boundary (V := V) (wrapperOf name kind function steps later) modelText items).lookup x =
      none := by
  rw [lookup_boundary, if_neg]
  unfold wrapperOf
  simp only [List.mem_append, not_or]
  constructor <;> split <;> simp [h1, h2]

/-- The variables once the arguments are decoded: their values are at hand, and every variable
that the wrapper sets later is free. -/
structure Decoded (env : Env V) (parameters : List Parameter) (vs : List V) : Prop where
  arguments : readValues env (argumentVariables parameters) = .ok vs
  model_free : env.lookup modelVariable = none
  result_free : env.lookup resultVariable = none
  retrieved_free : env.lookup retrievedVariable = none
  saved_free : env.lookup savedVariable = none

theorem decoded_withArguments {parameters : List Parameter} {vs : List V}
    (h : ∀ x, x ≠ modelParameter → x ≠ argumentsParameter → env.lookup x = none)
    (hlen : vs.length = parameters.length) : Decoded (withArguments env 0 vs) parameters vs := by
  have hfree : ∀ x : String, x.toList.head? ≠ some 'a' → x ≠ modelParameter →
      x ≠ argumentsParameter → (withArguments env 0 vs).lookup x = none := by
    intro x ha h1 h2
    rw [lookup_withArguments_of_ne vs fun k _ => argumentVariable_ne ha k]
    exact h x h1 h2
  refine ⟨?_, hfree _ (by decide) (by decide) (by decide),
    hfree _ (by decide) (by decide) (by decide), hfree _ (by decide) (by decide) (by decide),
    hfree _ (by decide) (by decide) (by decide)⟩
  unfold argumentVariables
  rw [← hlen, List.range_eq_range']
  exact readValues_of_lookup fun k hk => lookup_withArguments hk

/-- The texts of the arguments are at the boundary when some argument is decoded. -/
theorem lookup_arguments_boundary {name function : String} {kind : WrapperKind}
    {steps more : List Step} {parameters : List Parameter} {later : Bool} {items : List String}
    (modelText : String) (hs : steps = decodeSteps 0 parameters ++ more) (h : parameters ≠ []) :
    (boundary (V := V) (wrapperOf name kind function steps later) modelText items).lookup
      argumentsParameter = some (.texts items) := by
  have hany : steps.any Step.isDecode = true := by
    rw [hs, List.any_append, any_isDecode_decodeSteps]
    simp [h]
  rw [lookup_boundary, if_pos]
  · rfl
  · simp [wrapperOf, hany]

/-- A wrapper that decodes its arguments first and then does what `k` says, does both from its
boundary on. -/
theorem run_boundary {name function : String} {kind : WrapperKind} {later : Bool}
    {parameters : List Parameter} {modelText : String} {items : List String}
    {k : List V → ExceptT Fault M Outcome}
    (hk : ∀ (env : Env V) vs, Decoded env parameters vs →
      (kind = .intent → env.lookup modelParameter = some (.text modelText)) →
      run host env rest = k vs) :
    run host (boundary (wrapperOf name kind function (decodeSteps 0 parameters ++ rest) later)
        modelText items) (decodeSteps 0 parameters ++ rest) =
      liftM (decodeFrom host items 0 parameters) >>= k := by
  refine run_decodeSteps (lookup_arguments_boundary modelText rfl) ?_ ?_
  · intro i _
    exact lookup_boundary_of_ne modelText items (argumentVariable_ne (by decide) i)
      (argumentVariable_ne (by decide) i)
  · intro vs hlen
    refine hk _ vs (decoded_withArguments ?_ hlen) ?_
    · intro x h1 h2
      exact lookup_boundary_of_ne modelText items h1 h2
    · intro hkind
      rw [lookup_withArguments_of_ne vs fun i _ => argumentVariable_ne (by decide) i,
        lookup_boundary, if_pos]
      · rfl
      · simp [wrapperOf, hkind]

/-! ## Init functions -/

theorem run_resultSteps (host : Host M V) (m : Model) (intent : Option Intent)
    (binding : Option Binding) {result : V} {model : Option V} (later : Bool)
    (hm : readOptional ((resultVariable, .value result) :: env)
      (intent.map fun _ => modelVariable) = .ok model)
    (hr : env.lookup retrievedVariable = none) (hv : env.lookup savedVariable = none) :
    run host ((resultVariable, .value result) :: env) (resultSteps m intent binding later) =
      liftM (do
        let state ← match binding with
          | none => pure result
          | some binding => host.retrieve {
              binding, modelType := m.type, modelName := m.qualifiedName,
              intentName := intent.map Intent.name, source := result, model }
        return ({ text := ← host.save m.saveFunction state, later } : Outcome)) := by
  have hsaved : List.lookup savedVariable ((resultVariable, .value result) :: env) = none := by
    rw [lookup_cons_of_ne _ (by decide)]
    exact hv
  have hself : List.lookup resultVariable ((resultVariable, .value result) :: env) =
      some (.value result) := List.lookup_cons_self
  rcases binding with _ | b
  · have := run_closing host m later hself hsaved
    simpa [resultSteps] using this
  · have hretrieved : List.lookup retrievedVariable ((resultVariable, .value result) :: env) =
        none := by
      rw [lookup_cons_of_ne _ (by decide)]
      exact hr
    have := run_retrieving host (m := m) b later hself hm hretrieved hsaved
    simpa [resultSteps] using this

theorem calleeOf_target (i : Init) : calleeOf i.target = (initCallee i, none) := by
  unfold Init.target initCallee
  rcases i.placement <;> rfl

theorem run_initSteps {m : Model} {i : Init} {binding : Option Binding} {vs : List V}
    (h : Decoded env i.parameters vs) :
    run host env (initSteps m i binding) = liftM (do
      let result ← host.call (initCallee i) none vs
      let state ← match binding with
        | none => pure result
        | some binding => host.retrieve {
            binding, modelType := m.type, modelName := m.qualifiedName, intentName := none,
            source := result, model := none }
      return Outcome.mk (← host.save m.saveFunction state) i.isSuspending) := by
  have hcall : readOptional env (calleeOf i.target).2 = .ok none := by
    rw [calleeOf_target]
    rfl
  unfold initSteps
  rw [run_call i.target hcall h.arguments (by rintro _ ⟨⟩; exact h.result_free), calleeOf_target,
    liftM_bind]
  exact bind_congr fun result =>
    run_resultSteps host m none binding i.isSuspending rfl h.retrieved_free h.saved_free

/-! ## Intents -/

theorem readValues_cons_of_ne {a : String} (x : Slot V) {names : List String}
    (h : ∀ name ∈ names, a ≠ name) :
    readValues ((a, x) :: env) names = readValues env names := by
  unfold readValues
  induction names with
  | nil => rfl
  | cons name names ih =>
    have hfirst : readValue ((a, x) :: env) name = readValue env name := by
      simp only [readValue, lookup_cons_of_ne x (h name (by simp))]
    rw [List.mapM_cons, List.mapM_cons, hfirst, ih fun n hn => h n (by simp [hn])]

/-- The variables once the model is loaded as well. -/
structure Loaded (env : Env V) (parameters : List Parameter) (vs : List V) (model : V) : Prop where
  arguments : readValues env (argumentVariables parameters) = .ok vs
  loaded : env.lookup modelVariable = some (.value model)
  result_free : env.lookup resultVariable = none
  retrieved_free : env.lookup retrievedVariable = none
  saved_free : env.lookup savedVariable = none

theorem Decoded.load {parameters : List Parameter} {vs : List V} (h : Decoded env parameters vs)
    (model : V) : Loaded ((modelVariable, .value model) :: env) parameters vs model := by
  have hfree : ∀ x : String, modelVariable ≠ x → env.lookup x = none →
      List.lookup x ((modelVariable, .value model) :: env) = none := fun x hx hn => by
    rw [lookup_cons_of_ne _ hx]
    exact hn
  refine ⟨?_, List.lookup_cons_self, hfree _ (by decide) h.result_free,
    hfree _ (by decide) h.retrieved_free, hfree _ (by decide) h.saved_free⟩
  rw [readValues_cons_of_ne]
  · exact h.arguments
  · intro name hname
    obtain ⟨k, -, rfl⟩ := List.mem_map.mp hname
    exact (argumentVariable_ne (by decide) k).symm

/-- The call of an intent on the model that was loaded. -/
theorem run_callIntent {i : Intent} {result : Option String} {model : V} {vs : List V}
    (h : Loaded env i.arguments vs model)
    (hv : ∀ var, result = some var → env.lookup var = none) :
    run host env (.call result (Snapshot.intentCall i).1 (Snapshot.intentCall i).2 :: rest) = (do
      let v ← (callIntent host i model vs : M V)
      run host ((result.map fun var => (var, .value v)).toList ++ env) rest) := by
  have hmodel : readValue env modelVariable = .ok model := by simp [readValue, h.loaded]
  have hreceiver : readOptional env (some modelVariable) = .ok (some model) := by
    simp [readOptional, hmodel]
  unfold Snapshot.intentCall callIntent
  rcases i.convention
  · have hall : readValues env (modelVariable :: argumentVariables i.arguments) =
        .ok (model :: vs) := by
      have := h.arguments
      unfold readValues at this ⊢
      rw [List.mapM_cons, hmodel, this]
      rfl
    exact run_call (.function i.qualifiedName) (rfl : readOptional env none = .ok none) hall hv
  · exact run_call (.member modelVariable i.name none) hreceiver h.arguments hv
  · exact run_call (.member modelVariable i.name (some i.qualifiedName)) hreceiver h.arguments hv

theorem run_intentSteps {m : Model} {i : Intent} {binding : Option Binding} {vs : List V}
    {modelText : String} (h : Decoded env i.arguments vs)
    (ht : env.lookup modelParameter = some (.text modelText)) :
    run host env (intentSteps m i binding) = liftM (do
      let model ← host.load m.loadFunction modelText
      let result ← callIntent host i model vs
      let state ← match binding with
        | none => pure <|
          if ∃ type ∈ i.returnType, type.nullable = false ∧ type.name = m.qualifiedName then result
          else model
        | some binding => host.retrieve {
            binding, modelType := m.type, modelName := m.qualifiedName, intentName := some i.name,
            source := result, model := some model }
      return Outcome.mk (← host.save m.saveFunction state) i.isSuspending) := by
  simp only [← Snapshot.returnsModel_iff]
  unfold intentSteps
  rw [run_loadModel _ ht h.model_free, liftM_bind]
  refine bind_congr fun model => ?_
  have hl := h.load model
  generalize (modelVariable, Slot.value model) :: env = env at hl
  rw [liftM_bind]
  by_cases hkeep : (binding.isSome || Snapshot.returnsModel m i) = true
  · rw [if_pos hkeep, run_callIntent hl (by rintro _ ⟨⟩; exact hl.result_free)]
    refine bind_congr fun result => ?_
    have hmodel : readOptional ((resultVariable, .value result) :: env)
        ((some i).map fun _ => modelVariable) = .ok (some model) := by
      rw [Option.map_some, readOptional, readValue, lookup_cons_of_ne _ (by decide), hl.loaded]
      rfl
    have := run_resultSteps host m (some i) binding i.isSuspending hmodel hl.retrieved_free
      hl.saved_free
    rcases binding with _ | b
    · have hreturns : Snapshot.returnsModel m i = true := by simpa using hkeep
      simpa [hreturns] using this
    · exact this
  · rw [if_neg hkeep, run_callIntent hl (by rintro _ ⟨⟩)]
    refine bind_congr fun result => ?_
    rcases binding with _ | b
    · have hreturns : Snapshot.returnsModel m i = false := by simpa using hkeep
      have := run_closing host m i.isSuspending hl.loaded hl.saved_free
      simpa [hreturns] using this
    · exact absurd rfl hkeep

end

/-! ## The law of wrappers -/

/-- The wrapper does on every host what the init function of the model means. -/
structure ServesInit (s : Snapshot) (config : Config) (m : Model) (w : Wrapper) (i : Init) :
    Prop where
  of_model : m.init = some i
  declared : s.Declares i.decl i.name i.qualifiedName i.parameters i.returnType
  function : w.function = i.qualifiedName
  runs : ∃ binding, bindingFor s config m .init i.decl i.usesRetriever = .ok binding ∧
    ∀ {M : Type → Type} [Monad M] [LawfulMonad M] {V : Type} (host : Host M V)
      (modelText : String) (items : List String),
      run host (boundary w modelText items) w.steps =
        liftM (initMeaning host (s.unit config m).1 m i binding items)

/-- The wrapper does on every host what an intent of the model means. -/
structure ServesIntent (s : Snapshot) (config : Config) (m : Model) (w : Wrapper) (i : Intent) :
    Prop where
  of_model : i ∈ m.intents
  declared : s.Declares i.decl i.name i.qualifiedName i.parameters i.returnType
  function : w.function = i.qualifiedName
  runs : ∃ binding, bindingFor s config m .intent i.decl i.usesRetriever = .ok binding ∧
    ∀ {M : Type → Type} [Monad M] [LawfulMonad M] {V : Type} (host : Host M V)
      (modelText : String) (items : List String),
      run host (boundary w modelText items) w.steps =
        liftM (intentMeaning host (s.unit config m).1 m i binding modelText items)

theorem runs_of_initWrapper {s : Snapshot} {config : Config} {m : Model} {i : Init} {w : Wrapper}
    (h : s.initWrapper config m i = .ok w) :
    w.function = i.qualifiedName ∧
      ∃ binding, bindingFor s config m .init i.decl i.usesRetriever = .ok binding ∧
        ∀ {M : Type → Type} [Monad M] [LawfulMonad M] {V : Type} (host : Host M V)
          (modelText : String) (items : List String),
          run host (boundary w modelText items) w.steps =
            liftM (initMeaning host (s.unit config m).1 m i binding items) := by
  obtain ⟨binding, hb, rfl⟩ := exists_of_initWrapper h
  refine ⟨rfl, binding, hb, fun host modelText items => ?_⟩
  rw [initMeaning, liftM_bind]
  exact run_boundary fun env vs hd _ => run_initSteps hd

theorem runs_of_intentWrapper {s : Snapshot} {config : Config} {m : Model} {i : Intent}
    {w : Wrapper} (h : s.intentWrapper config m i = .ok w) :
    w.function = i.qualifiedName ∧
      ∃ binding, bindingFor s config m .intent i.decl i.usesRetriever = .ok binding ∧
        ∀ {M : Type → Type} [Monad M] [LawfulMonad M] {V : Type} (host : Host M V)
          (modelText : String) (items : List String),
          run host (boundary w modelText items) w.steps =
            liftM (intentMeaning host (s.unit config m).1 m i binding modelText items) := by
  obtain ⟨binding, hb, rfl⟩ := exists_of_intentWrapper h
  refine ⟨rfl, binding, hb, fun host modelText items => ?_⟩
  rw [intentMeaning, liftM_bind, ← i.arguments_eq]
  exact run_boundary fun env vs hd ht => run_intentSteps hd (ht rfl)

/-- Every wrapper of the unit of a model serves one function of the model. From its boundary
parameters on it runs without a fault, decodes each argument from its own place, calls the function
once, and gives back the saved next state. -/
theorem every_wrapper_serves_its_function {s : Snapshot} {config : Config} {id : DeclId}
    {m : Model} {w : Wrapper} (hm : s.model? config id = some m)
    (hw : w ∈ (s.unit config m).1.wrappers) :
    (∃ i, ServesInit s config m w i) ∨ ∃ i, ServesIntent s config m w i := by
  rcases Snapshot.mem_wrappers_unit hw with ⟨i, hi, hok⟩ | ⟨i, hi, hok⟩
  · obtain ⟨hf, hr⟩ := runs_of_initWrapper hok
    exact Or.inl ⟨i, hi, Snapshot.declares_of_init hm hi, hf, hr⟩
  · obtain ⟨hf, hr⟩ := runs_of_intentWrapper hok
    have hmem := Model.mem_intents_of_mem_distinctIntents hi
    exact Or.inr ⟨i, hmem, Snapshot.declares_of_mem_intents hm hmem, hf, hr⟩

/-- A counter with a free intent that asks a retriever for the next state. -/
def counterFile : SourceFile where
  path := "app/Counter.kt"
  package := "app"
  declarations :=
    let names : AnnotationNames := {}
    [Node.classNamed "Counter" |>.annotated { name := names.model }
      |>.annotated
        { name := names.retrieveWith, arguments := [{ value := .type { name := "S" } }] },
    Node.functionNamed "add"
      |>.annotated { name := names.intent, arguments := [{ value := .flag true }] }
      |>.withParameter "counter" { name := "app.Counter" }
      |>.withParameter "by" { name := "kotlin.Int" }]

theorem the_counter_is_served : ∃ s m w, Snapshot.ofFiles [counterFile] = .ok s ∧
    s.model? {} 0 = some m ∧ w ∈ (s.unit {} m).1.wrappers ∧
      ((∃ i, ServesInit s {} m w i) ∨ ∃ i, ServesIntent s {} m w i) := by
  have h : ((Snapshot.ofFiles [counterFile]).toOption.bind fun s => (s.model? {} 0).bind fun m =>
      (s.unit {} m).1.wrappers.head?).isSome = true := by decide +kernel
  simp only [Option.isSome_iff_exists, Option.bind_eq_some_iff] at h
  obtain ⟨w, s, hs, m, hm, hw⟩ := h
  have hw := List.mem_of_head? hw
  refine ⟨s, m, w, ?_, hm, hw, every_wrapper_serves_its_function hm hw⟩
  rcases hf : Snapshot.ofFiles [counterFile] with e | s'
  · rw [hf] at hs
    cases hs
  · rw [hf] at hs
    cases hs
    rfl

end BoundaryGen.Execution
