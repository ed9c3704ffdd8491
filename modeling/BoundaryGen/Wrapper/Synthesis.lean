-- Making wrappers. The steps of every wrapper are: decode the arguments, load
-- the model for an intent, call the function, ask the retriever if the function
-- wants one, save the state, give it back.
import BoundaryGen.Model.Check
import BoundaryGen.Wrapper.Basic

namespace BoundaryGen

/-! ## Names -/

/-- The parameter that carries the model over the boundary. -/
def modelParameter : String := "model"

/-- The parameter that carries the other arguments. -/
def argumentsParameter : String := "parameters"

/-- The variable of a loaded model. -/
def modelVariable : String := "nextModel"

/-- The variable of the result of the wrapped call. -/
def resultVariable : String := "result"

/-- The variable of the state that a retriever gives. -/
def retrievedVariable : String := "retrieved"

/-- The variable of the saved state. -/
def savedVariable : String := "encoded"

/-- The variable of a decoded argument. -/
def argumentVariable (i : Nat) : String := "arg" ++ toString i

/-- What has to be opted into for a function to be called by the host. -/
def exportOptIn : String := "kotlin.js.ExperimentalJsExport"

namespace Model

def saveFunction (m : Model) : String := "save" ++ m.name

def loadFunction (m : Model) : String := "load" ++ m.name

end Model

/-! ## Steps -/

/-- One step for each parameter, from the place `start` of the list of arguments on. -/
def decodeSteps (start : Nat) : List Parameter → List Step
  | [] => []
  | p :: rest => .decode (argumentVariable start) start p.type :: decodeSteps (start + 1) rest

/-- The variables of decoded arguments. -/
def argumentVariables (parameters : List Parameter) : List String :=
  (List.range parameters.length).map argumentVariable

/-- The step that hands the result of a call to a retriever. -/
def retrieveStep (binding : Binding) (m : Model) (intent : Option Intent) : Step :=
  .retrieve {
    result := retrievedVariable
    source := resultVariable
    modelVariable := intent.map fun _ => modelVariable
    intentName := intent.map (·.name)
    modelType := m.type
    modelName := m.qualifiedName
    retriever := binding.retriever
    info := binding.info
    data := binding.data }

/-- The last steps: save the value of a variable and give it back. -/
def closingSteps (m : Model) (value : String) (later : Bool) : List Step :=
  [.encode savedVariable value m.saveFunction,
    if later then .giveBackLater savedVariable else .giveBack savedVariable]

/-- A wrapper with its boundary parameters: the model for an intent, and the list of arguments
when one of them is decoded. -/
def wrapperOf (name : String) (kind : WrapperKind) (function : String) (steps : List Step)
    (later : Bool) : Wrapper where
  name
  kind
  function
  parameters :=
    (if kind = .intent then [modelParameter] else [])
      ++ if steps.any Step.isDecode then [argumentsParameter] else []
  steps
  capabilities := [.optIn exportOptIn, .boundaryExport]
  returnKind := if later then .handle else .text

/-! ## Init functions -/

/-- What the wrapper of an init function calls. -/
def Init.target (i : Init) : CallTarget :=
  match i.placement with
  | .companion owner => .companion owner i.name
  | .topLevel | .nested _ => .function i.qualifiedName

namespace Snapshot

/-- The wrapper of an init function. -/
def initWrapper (s : Snapshot) (config : Config) (m : Model) (i : Init) :
    Except RetrieverMissing Wrapper := do
  let retrieve ←
    if i.usesRetriever then
      pure [retrieveStep (← s.bindAt config i.decl m.decl .init) m none]
    else pure []
  let value := if i.usesRetriever then retrievedVariable else resultVariable
  let steps := decodeSteps 0 i.parameters
    ++ [.call (some resultVariable) i.target (argumentVariables i.parameters)]
    ++ retrieve ++ closingSteps m value i.isSuspending
  return wrapperOf ("init" ++ m.name) .init i.qualifiedName steps i.isSuspending

/-! ## Intents -/

/-- Whether an intent returns the next state itself. -/
def returnsModel (m : Model) (i : Intent) : Bool :=
  match i.returnType with
  | some type => !type.nullable && decide (type.name = m.qualifiedName)
  | none => false

/-- What the wrapper of an intent calls, and with which variables. -/
def intentCall (i : Intent) : CallTarget × List String :=
  let arguments := argumentVariables i.arguments
  match i.convention with
  | .free => (.function i.qualifiedName, modelVariable :: arguments)
  | .method => (.member modelVariable i.name none, arguments)
  | .extension => (.member modelVariable i.name (some i.qualifiedName), arguments)

/-- The wrapper of an intent. An intent that returns no model changes the one that was loaded. -/
def intentWrapper (s : Snapshot) (config : Config) (m : Model) (i : Intent) :
    Except RetrieverMissing Wrapper := do
  let retrieve ←
    if i.usesRetriever then
      pure [retrieveStep (← s.bindAt config i.decl m.decl .intent) m (some i)]
    else pure []
  let result := if i.usesRetriever || returnsModel m i then some resultVariable else none
  let value :=
    if i.usesRetriever then retrievedVariable
    else if returnsModel m i then resultVariable
    else modelVariable
  let (target, arguments) := intentCall i
  let steps := decodeSteps 0 i.arguments
    ++ [.loadModel modelVariable m.loadFunction modelParameter, .call result target arguments]
    ++ retrieve ++ closingSteps m value i.isSuspending
  return wrapperOf (i.name ++ m.name) .intent i.qualifiedName steps i.isSuspending

/-! ## Units -/

/-- A wrapper that could be made, and what is found when it could not. -/
def reported (result : Except RetrieverMissing Wrapper) : Option Wrapper × List Finding :=
  match result with
  | .ok w => (some w, [])
  | .error e => (none, [.retrieverMissing e.function])

/-- The wrapper of the init function of a model, and what is found on the way. -/
def initOutcome (s : Snapshot) (config : Config) (m : Model) : Option Wrapper × List Finding :=
  match m.checkInit m.init, m.init with
  | [], some i => reported (s.initWrapper config m i)
  | findings, _ => (none, findings)

/-- The unit of a model, and what is found on the way: first about the type of the model, then
about the names of its intents, its init function, and its intents in their order. Intents that
share a name get no wrapper. -/
def unit (s : Snapshot) (config : Config) (m : Model) : WrapperUnit × List Finding :=
  let init := s.initOutcome config m
  let intents := m.distinctIntents.map fun i => reported (s.intentWrapper config m i)
  ({ model := m.qualifiedName
     modelName := m.name
     modelType := m.type
     package := config.generatedPackage m.package
     fileName := m.name ++ "Kirok"
     saveFunction := m.saveFunction
     loadFunction := m.loadFunction
     init := init.1
     intents := intents.filterMap (·.1) },
    m.checkType ++ m.checkIntentNames ++ init.2 ++ intents.flatMap (·.2))

end Snapshot

end BoundaryGen
