-- Checks of models before their wrappers are made, and what they find.
import BoundaryGen.Diagnostic
import BoundaryGen.Model.Basic

namespace BoundaryGen

/-! ## Findings -/

/-- What is wrong with a model or one of its functions. Models and functions are named by their
qualified names where nothing else is said. -/
inductive Finding where
  /-- The model has type parameters. `name` is its simple name. -/
  | genericModel (model name : String)
  | repeatedIntent (model intent : String)
  /-- The model has no init function. `name` is its simple name. -/
  | initMissing (model name : String)
  | initNotStatic (init parent : String)
  | retrieverMissing (function : String)
  deriving DecidableEq, Repr

/-- A finding in words. A generic model still gets its unit, all else stops a wrapper. -/
def Finding.diagnostic : Finding → Diagnostic
  | .genericModel model name => {
      severity := .warning
      message := "Model " ++ name ++ " has type parameters. Generic models cannot be serialized "
        ++ "by the generated save and load functions."
      subject := some model }
  | .repeatedIntent model intent => {
      severity := .error
      message := "Intent name " ++ intent ++ " must be unique. Please rename the intent."
      subject := some model }
  | .initMissing model name => {
      severity := .error
      message := "Init function not found. Please define init function for " ++ name
        ++ " model, then add @Init annotation to init function."
      subject := some model }
  | .initNotStatic init parent => {
      severity := .error
      message := "Init function must be static. Use companion object instead of " ++ parent ++ "."
      subject := some init }
  | .retrieverMissing function => {
      severity := .error
      message := "Retriever not found for function " ++ function }

/-! ## Names that stand more than once -/

/-- Counts of names, in the order in which the names came first. -/
abbrev Tally := List (String × Nat)

/-- Counts one more of a name. -/
def Tally.add (name : String) : Tally → Tally
  | [] => [(name, 1)]
  | (n, count) :: rest =>
    if n = name then (n, count + 1) :: rest else (n, count) :: Tally.add name rest

/-- The count of each name. -/
def Tally.ofList (names : List String) : Tally :=
  names.foldl (fun tally name => Tally.add name tally) []

/-- The names that more than one intent has, each once, in the order of their first use. -/
def repeatedNames (intents : List Intent) : List String :=
  (Tally.ofList (intents.map (·.name))).filterMap fun (name, count) =>
    if count = 1 then none else some name

namespace Model

/-! ## Checks -/

/-- Generic models are found. -/
def checkType (m : Model) : List Finding :=
  if m.type.arguments.isEmpty then [] else [.genericModel m.qualifiedName m.name]

/-- Each name that more than one intent has is found once. -/
def checkIntentNames (m : Model) : List Finding :=
  (repeatedNames m.intents).map (.repeatedIntent m.qualifiedName)

/-- Whether an init function can be called without an instance. -/
def checkInit (m : Model) : Option Init → List Finding
  | none => [.initMissing m.qualifiedName m.name]
  | some init =>
    match init.placement with
    | .nested parent => [.initNotStatic init.qualifiedName parent]
    | .topLevel | .companion _ => []

/-- The intents whose name no other intent has. -/
def distinctIntents (m : Model) : List Intent :=
  let repeated := repeatedNames m.intents
  m.intents.filter fun i => i.name ∉ repeated

end Model

end BoundaryGen
