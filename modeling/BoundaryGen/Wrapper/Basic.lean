-- Wrappers: what is generated for one function, as a line of steps. All values
-- that cross the boundary are texts. The model travels as a parameter of its
-- own, all other arguments as one list of texts that are decoded one by one.
import BoundaryGen.Model.Retriever

namespace BoundaryGen

/-! ## Steps -/

/-- What a step calls. -/
inductive CallTarget where
  /-- A top level function. -/
  | function (qualifiedName : String)
  /-- A function on the value of a variable. An extension has to be imported. -/
  | member (receiver name : String) (importName : Option String)
  /-- A function of the companion object of a class. -/
  | companion (owner name : String)
  deriving DecidableEq, Repr

/-- A step that hands a state to a retriever. -/
structure RetrieveStep where
  /-- The variable for the state that comes back. -/
  result : String
  /-- The variable with the result of the wrapped call. -/
  source : String
  /-- The variable with the loaded model, for an intent. -/
  modelVariable : Option String
  /-- The name of the intent, for an intent. -/
  intentName : Option String
  modelType : TypeRef
  modelName : String
  retriever : TypeRef
  info : ValueSource
  data : ValueSource
  deriving DecidableEq

/-- The type of the data, or a type of the given name when none was found. -/
def RetrieveStep.dataType (step : RetrieveStep) (usual : String) : TypeRef :=
  step.data.type?.getD { name := usual }

inductive Step where
  /-- Decodes the argument at a place of the list of arguments. -/
  | decode (var : String) (index : Nat) (type : TypeRef)
  /-- Loads the model from the parameter that carries it. -/
  | loadModel (var function source : String)
  | call (result : Option String) (target : CallTarget) (arguments : List String)
  | retrieve (step : RetrieveStep)
  /-- Saves a state as text. -/
  | encode (var value function : String)
  | giveBack (var : String)
  | giveBackLater (var : String)
  deriving DecidableEq

def Step.isDecode : Step → Bool
  | .decode .. => true
  | _ => false

/-- The name that a step needs to be imported. -/
def Step.importName? : Step → Option String
  | .call _ (.member _ _ name?) _ => name?
  | _ => none

/-! ## Wrappers -/

inductive WrapperKind where
  | init
  | intent
  deriving DecidableEq, Repr

/-- What a wrapper needs around it. -/
inductive Capability where
  /-- The host can call the wrapper. -/
  | boundaryExport
  /-- The wrapper uses something that has to be opted into. -/
  | optIn (name : String)
  deriving DecidableEq, Repr

inductive ReturnKind where
  | text
  | handle
  deriving DecidableEq, Repr

structure Wrapper where
  name : String
  kind : WrapperKind
  /-- The qualified name of the wrapped function. -/
  function : String
  /-- The parameters at the boundary. All of them are texts. -/
  parameters : List String
  steps : List Step
  capabilities : List Capability
  returnKind : ReturnKind
  deriving DecidableEq

namespace Wrapper

/-- The number of arguments that the wrapper decodes. The model is not counted. -/
def arity (w : Wrapper) : Nat := (w.steps.filter Step.isDecode).length

def isAsync (w : Wrapper) : Bool := w.returnKind = .handle

/-- The names that the wrapper needs to be imported, in the order of the steps. -/
def imports (w : Wrapper) : List String := w.steps.filterMap Step.importName?

end Wrapper

/-! ## Units -/

/-- What is generated for one model. -/
structure WrapperUnit where
  model : String
  modelName : String
  modelType : TypeRef
  package : String
  fileName : String
  saveFunction : String
  loadFunction : String
  init : Option Wrapper
  intents : List Wrapper
  deriving DecidableEq

/-- Names in rising order without repetition. -/
def sortedNames (names : List String) : List String :=
  dropRepeats (names.mergeSort fun a b => a ≤ b)
where
  /-- Of equal neighbours one stays. -/
  dropRepeats : List String → List String
    | [] => []
    | [a] => [a]
    | a :: b :: rest => if a = b then dropRepeats (b :: rest) else a :: dropRepeats (b :: rest)

namespace WrapperUnit

/-- All wrappers, the one of the init function first. -/
def wrappers (u : WrapperUnit) : List Wrapper := u.init.toList ++ u.intents

/-- The names that the wrappers need to be imported. -/
def imports (u : WrapperUnit) : List String := sortedNames (u.wrappers.flatMap Wrapper.imports)

end WrapperUnit

end BoundaryGen
