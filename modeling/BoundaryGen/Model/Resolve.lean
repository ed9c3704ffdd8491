-- Finding models and their functions in a snapshot. Nothing is judged here: a
-- model without an init function, or with two intents of one name, is found
-- as it is.
import BoundaryGen.Config
import BoundaryGen.Model.Basic

namespace BoundaryGen.Snapshot

/-! ## Models -/

/-- The classes with the model annotation, in the order of the source. A class that only expects
an actual one elsewhere is no model. -/
def modelIds (s : Snapshot) (config : Config) : List DeclId :=
  (s.annotated config.annotations.model).filter fun id =>
    match s.get? id with
    | some d => d.class?.isSome && !d.hasModifier .expect
    | none => false

/-! ## Functions -/

/-- The functions that carry an annotation, in the order of the source. -/
def functionsAnnotated (s : Snapshot) (name : String) : List (Declaration × FunctionShape) :=
  (s.annotated name).filterMap fun id => do
    let d ← s.get? id
    return (d, ← d.function?)

/-- Whether the annotation of a function asks for the retriever of the model. -/
def asksRetriever (d : Declaration) (annotationName : String) : Bool :=
  ((d.annotationNamed annotationName).bind (·.firstFlag?)).getD false

/-- The top level intents that take the model as their first parameter. -/
def freeIntentIds (s : Snapshot) (config : Config) (model : DeclId) : List DeclId :=
  let modelType := s.starProjectedType model
  (s.functionsAnnotated config.annotations.intent).filterMap fun (d, f) =>
    if d.parent.isNone ∧ f.receiver.isNone ∧ f.parameters.head?.map (·.type) = some modelType
    then some d.id else none

/-- How a function takes the model as its receiver, if it does. A function that extends the model
counts as an extension wherever it is declared. -/
def receiverConvention? (model : DeclId) (modelName : String) (d : Declaration)
    (f : FunctionShape) : Option Convention :=
  if f.receiver.map (·.name) = some modelName then some .extension
  else if d.parent = some model then some .method
  else none

/-- The pairs whose first part has not come before. -/
def firstOfEach : (seen : List DeclId) → List (DeclId × Convention) → List (DeclId × Convention)
  | _, [] => []
  | seen, pair :: rest =>
    if pair.1 ∈ seen then firstOfEach seen rest else pair :: firstOfEach (pair.1 :: seen) rest

/-- The intents declared in the model or extending it, each once. -/
def receiverIntentIds (s : Snapshot) (config : Config) (model : DeclId) :
    List (DeclId × Convention) :=
  match s.get? model with
  | none => []
  | some m =>
    firstOfEach [] <| (s.functionsAnnotated config.annotations.intent).filterMap fun (d, f) =>
      (receiverConvention? model m.qualifiedName d f).map (d.id, ·)

/-- The init function of a model: the first one in the order of the source that returns the model,
or that asks for the retriever and stands in an object directly inside the model. -/
def initId (s : Snapshot) (config : Config) (model : DeclId) : Option DeclId :=
  let modelType := s.starProjectedType model
  (s.functionsAnnotated config.annotations.init).findSome? fun (d, f) =>
    if f.returnType = some modelType
      ∨ (asksRetriever d config.annotations.init ∧ s.grandparentId? d.id = some model)
    then some d.id else none

/-! ## Descriptions -/

/-- An intent with all that its wrapper needs. -/
def intent (config : Config) (d : Declaration) (f : FunctionShape) (convention : Convention) :
    Intent where
  decl := d.id
  name := d.simpleName
  qualifiedName := d.qualifiedName
  convention
  parameters := f.parameters
  returnType := f.returnType
  isAsync := d.hasModifier .suspend
  usesRetriever := asksRetriever d config.annotations.intent

/-- The intent of a declaration, if the declaration is a function. -/
def intentOf? (s : Snapshot) (config : Config) (id : DeclId) (convention : Convention) :
    Option Intent := do
  let d ← s.get? id
  return intent config d (← d.function?) convention

/-- Where a function is declared, as seen from a model. -/
def placement (s : Snapshot) (d : Declaration) (model : Declaration) : Placement :=
  match s.parent? d.id with
  | none => .topLevel
  | some parent =>
    if parent.isCompanion then
      .companion (((parent.parent.bind s.get?).getD model).qualifiedName)
    else .nested parent.qualifiedName

/-- The init function of a declaration, if the declaration is a function. -/
def initOf? (s : Snapshot) (config : Config) (id : DeclId) (model : Declaration) : Option Init := do
  let d ← s.get? id
  let f ← d.function?
  return {
    decl := d.id
    name := d.simpleName
    qualifiedName := d.qualifiedName
    placement := s.placement d model
    parameters := f.parameters
    returnType := f.returnType
    isAsync := d.hasModifier .suspend
    usesRetriever := asksRetriever d config.annotations.init }

/-- The intents of a model: the free ones first, each group in the order of the source. -/
def intents (s : Snapshot) (config : Config) (model : DeclId) : List Intent :=
  (s.freeIntentIds config model).filterMap (s.intentOf? config · .free)
    ++ (s.receiverIntentIds config model).filterMap fun (id, convention) =>
      s.intentOf? config id convention

/-- The model of a declaration. -/
def model? (s : Snapshot) (config : Config) (id : DeclId) : Option Model := do
  let d ← s.get? id
  return {
    decl := id
    name := d.simpleName
    qualifiedName := d.qualifiedName
    package := d.package
    type := s.starProjectedType id
    fields := (d.class?.map (·.properties)).getD []
    init := (s.initId config id).bind (s.initOf? config · d)
    intents := s.intents config id
    retriever := (d.annotationNamed config.annotations.retrieveWith).bind (·.firstType?) }

/-- The models of a snapshot, in the order of the source. -/
def models (s : Snapshot) (config : Config) : List Model :=
  (s.modelIds config).filterMap (s.model? config)

end BoundaryGen.Snapshot
