-- Models as the generator sees them: a class with its fields, the function
-- that makes its first state, and its intents, the functions that lead from
-- one state to the next.
import BoundaryGen.Snapshot.Query

namespace BoundaryGen

/-! ## Intents -/

/-- How a function takes the model it works on. -/
inductive Convention where
  /-- A top level function with the model as its first parameter. -/
  | free
  /-- A function declared in the model. -/
  | method
  /-- A function that extends the model. -/
  | extension
  deriving DecidableEq, Repr

/-- Methods and extensions take the model as the receiver of the call. -/
def Convention.onReceiver : Convention → Bool
  | .free => false
  | .method | .extension => true

structure Intent where
  decl : DeclId
  name : String
  qualifiedName : String
  convention : Convention
  /-- The parameters as declared; of a free function the first is the model. -/
  parameters : List Parameter
  returnType : Option TypeRef
  isAsync : Bool
  usesRetriever : Bool
  deriving DecidableEq

namespace Intent

/-- The parameters whose values come over the boundary one by one. -/
def arguments (i : Intent) : List Parameter :=
  match i.convention with
  | .free => i.parameters.drop 1
  | .method | .extension => i.parameters

/-- Whether the host gets a handle instead of a value. -/
def isSuspending (i : Intent) : Bool := i.isAsync || i.usesRetriever

end Intent

/-! ## Init functions -/

/-- Where an init function is declared. -/
inductive Placement where
  | topLevel
  /-- In the companion object of the class `owner`. -/
  | companion (owner : String)
  /-- In any other class, so that it cannot be called without an instance. -/
  | nested (parent : String)
  deriving DecidableEq, Repr

structure Init where
  decl : DeclId
  name : String
  qualifiedName : String
  placement : Placement
  parameters : List Parameter
  returnType : Option TypeRef
  isAsync : Bool
  usesRetriever : Bool
  deriving DecidableEq

/-- Whether the host gets a handle instead of a value. -/
def Init.isSuspending (i : Init) : Bool := i.isAsync || i.usesRetriever

/-! ## Models -/

structure Model where
  decl : DeclId
  name : String
  qualifiedName : String
  package : String
  /-- The type of the model with a star for each type parameter. -/
  type : TypeRef
  fields : List Parameter
  init : Option Init
  intents : List Intent
  /-- The retriever that the model itself names. -/
  retriever : Option TypeRef
  deriving DecidableEq

end BoundaryGen
