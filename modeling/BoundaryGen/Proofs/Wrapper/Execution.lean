-- Running the steps of a wrapper. A host says what loading, saving, decoding,
-- calling and retrieving do, in any monad; the run only moves values between
-- variables. A variable that is read before it is set, or set a second time,
-- is a fault that ends the run.
import BoundaryGen.Wrapper.Synthesis

namespace BoundaryGen.Execution

/-! ## Hosts -/

/-- A function as a call names it. The receiver of a member is a value of the run. -/
inductive Callee where
  | function (qualifiedName : String)
  | member (name : String) (importName : Option String)
  | companion (owner name : String)
  deriving DecidableEq

/-- What a retriever is handed. -/
structure Request (V : Type) where
  binding : Binding
  modelType : TypeRef
  modelName : String
  /-- The name of the intent, for an intent. -/
  intentName : Option String
  /-- The result of the wrapped call. -/
  source : V
  /-- The loaded model, for an intent. -/
  model : Option V

/-- What the functions behind the boundary do. Effects of any kind are effects of `M`. -/
structure Host (M : Type → Type) (V : Type) where
  load : (function text : String) → M V
  save : (function : String) → V → M String
  /-- Decodes an element of the list of argument texts. There is none behind the end of the list. -/
  decode : TypeRef → Option String → M V
  call : Callee → (receiver : Option V) → (arguments : List V) → M V
  retrieve : Request V → M V

/-! ## Variables -/

/-- What a variable holds. -/
inductive Slot (V : Type) where
  | text (s : String)
  | texts (items : List String)
  | value (v : V)

/-- The variables of a run, the last set first. -/
abbrev Env (V : Type) := List (String × Slot V)

inductive Fault where
  | unset (var : String)
  | setTwice (var : String)
  /-- The variable holds another kind of thing than the step reads. -/
  | wrongKind (var : String)
  /-- The steps end without a value given back. -/
  | noReturn
  deriving DecidableEq

section
variable {V : Type}

def readText (env : Env V) (var : String) : Except Fault String :=
  match env.lookup var with
  | none => .error (.unset var)
  | some (.text s) => .ok s
  | some _ => .error (.wrongKind var)

def readTexts (env : Env V) (var : String) : Except Fault (List String) :=
  match env.lookup var with
  | none => .error (.unset var)
  | some (.texts items) => .ok items
  | some _ => .error (.wrongKind var)

def readValue (env : Env V) (var : String) : Except Fault V :=
  match env.lookup var with
  | none => .error (.unset var)
  | some (.value v) => .ok v
  | some _ => .error (.wrongKind var)

def readValues (env : Env V) (vars : List String) : Except Fault (List V) :=
  vars.mapM (readValue env)

def readOptional (env : Env V) : Option String → Except Fault (Option V)
  | none => .ok none
  | some var => some <$> readValue env var

/-- Sets a variable that is not set yet. -/
def set (env : Env V) (var : String) (slot : Slot V) : Except Fault (Env V) :=
  match env.lookup var with
  | none => .ok ((var, slot) :: env)
  | some _ => .error (.setTwice var)

def setOptional (env : Env V) (var : Option String) (slot : Slot V) : Except Fault (Env V) :=
  match var with
  | none => .ok env
  | some var => set env var slot

/-- The function that a target names, and the variable with its receiver. -/
def calleeOf : CallTarget → Callee × Option String
  | .function name => (.function name, none)
  | .member receiver name importName => (.member name importName, some receiver)
  | .companion owner name => (.companion owner name, none)

end

/-! ## Runs -/

/-- What a run gives back: a text, and whether it comes through a handle. -/
structure Outcome where
  text : String
  later : Bool
  deriving DecidableEq

section
variable {M : Type → Type} [Monad M] {V : Type}

/-- Runs one step that gives nothing back. -/
def step (host : Host M V) (env : Env V) : Step → ExceptT Fault M (Env V)
  | .decode var index type => do
    let items ← readTexts env argumentsParameter
    let v ← host.decode type items[index]?
    set env var (.value v)
  | .loadModel var function source => do
    let v ← host.load function (← readText env source)
    set env var (.value v)
  | .call result target arguments => do
    let (callee, receiver) := calleeOf target
    let receiver ← readOptional env receiver
    let v ← host.call callee receiver (← readValues env arguments)
    setOptional env result (.value v)
  | .retrieve r => do
    let source ← readValue env r.source
    let model ← readOptional env r.modelVariable
    let v ← host.retrieve {
      binding := { retriever := r.retriever, info := r.info, data := r.data }
      modelType := r.modelType
      modelName := r.modelName
      intentName := r.intentName
      source
      model }
    set env r.result (.value v)
  | .encode var value function => do
    let s ← host.save function (← readValue env value)
    set env var (.text s)
  | .giveBack _ | .giveBackLater _ => return env

/-- Runs steps in order up to the first that gives a text back. -/
def run (host : Host M V) (env : Env V) : List Step → ExceptT Fault M Outcome
  | [] => throw .noReturn
  | .giveBack var :: _ => return { text := ← readText env var, later := false }
  | .giveBackLater var :: _ => return { text := ← readText env var, later := true }
  | s :: rest => do run host (← step host env s) rest

end

/-- What a boundary parameter holds: the text of the model, or the texts of the arguments. -/
def given {V : Type} (modelText : String) (items : List String) (parameter : String) : Slot V :=
  if parameter = modelParameter then .text modelText else .texts items

/-- The variables before the first step: the boundary parameters of the wrapper and no others. -/
def boundary {V : Type} (w : Wrapper) (modelText : String) (items : List String) : Env V :=
  w.parameters.map fun p => (p, given modelText items p)

end BoundaryGen.Execution
