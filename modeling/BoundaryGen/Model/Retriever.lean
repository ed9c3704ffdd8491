-- Retrievers: which retriever serves a function, and where the info and the
-- data that it is handed come from. Each is looked for in a fixed order, and
-- the first place that fits is taken.
import BoundaryGen.Model.Resolve

namespace BoundaryGen

/-! ## Places -/

/-- Where a value for a retriever comes from. -/
inductive ValueSource where
  /-- The value that the function returns. -/
  | returned (type : TypeRef)
  /-- One element of the pair that the function returns. -/
  | inPair (type : TypeRef)
  /-- A method of the model. -/
  | method (function : DeclId) (name : String) (type : TypeRef)
  /-- A function of an object inside the model. -/
  | companion (function : DeclId) (name : String) (type : TypeRef)
  /-- Nowhere; a neutral value takes its place. -/
  | absent (type : Option TypeRef)
  deriving DecidableEq

/-- The type of the value. -/
def ValueSource.type? : ValueSource → Option TypeRef
  | .returned type | .inPair type | .method _ _ type | .companion _ _ type => some type
  | .absent type => type

/-- What kind of function a retriever is looked for. -/
inductive Site where
  | init
  | intent
  deriving DecidableEq, Repr

/-- The retriever of a function, and where its info and data come from. -/
structure Binding where
  retriever : TypeRef
  info : ValueSource
  data : ValueSource
  deriving DecidableEq

/-- No retriever serves the function of this qualified name. -/
structure RetrieverMissing where
  function : String
  deriving DecidableEq, Repr

def RetrieverMissing.message (e : RetrieverMissing) : String :=
  "Retriever not found for function " ++ e.function

namespace Snapshot

/-! ## The retriever -/

/-- The retriever that a declaration names. An annotation that names no type is an error. -/
def retrieverAt (config : Config) (d : Declaration) : Except RetrieverMissing (Option TypeRef) :=
  match d.annotationNamed config.annotations.retrieveWith with
  | none => .ok none
  | some use =>
    match use.firstType? with
    | some type => .ok (some type)
    | none => .error ⟨d.qualifiedName⟩

/-- The retriever that a function names, or else the one that the model names. -/
def findRetriever (config : Config) (function model : Declaration) :
    Except RetrieverMissing TypeRef := do
  if let some type ← retrieverAt config function then return type
  if let some type ← retrieverAt config model then return type
  throw ⟨function.qualifiedName⟩

/-- The type of the info that a retriever wants: the first argument of its first super type. -/
def infoType (s : Snapshot) (retriever : TypeRef) : Option TypeRef := do
  let (_, shape) ← s.classNamed retriever.name
  (← shape.superTypes.head?).argument? 0

/-! ## Places of info and data -/

/-- The type that a declaration returns. -/
def returnType? (d : Declaration) : Option TypeRef := d.function?.bind (·.returnType)

/-- The type of an element of a pair type. -/
def pairElement? (config : Config) (type : TypeRef) (i : Nat) : Option TypeRef :=
  if type.name = config.pairType then type.argument? i else none

/-- Functions with an annotation that stand directly in the model. -/
def methodProviders (s : Snapshot) (annotationName : String) (model : DeclId) : List Declaration :=
  (s.functionsAnnotated annotationName).filterMap fun (d, _) =>
    if d.parent = some model then some d else none

/-- Functions with an annotation that stand in a class directly inside the model. -/
def companionProviders (s : Snapshot) (annotationName : String) (model : DeclId) :
    List Declaration :=
  (s.functionsAnnotated annotationName).filterMap fun (d, _) =>
    if d.parent ≠ some model ∧ s.grandparentId? d.id = some model then some d else none

/-- The first declaration whose return type fits, with that type. -/
def firstProvider (fits : TypeRef → Bool) (providers : List Declaration) :
    Option (Declaration × TypeRef) :=
  providers.findSome? fun d =>
    match returnType? d with
    | some type => if fits type then some (d, type) else none
    | none => none

/-- Where a value comes from: the return value when it fits, the element `element` of a returned
pair, a method of the model for an intent, or a function of its companion. -/
def source? (s : Snapshot) (config : Config) (fits : TypeRef → Bool) (element : Nat)
    (annotationName : String) (function : Declaration) (model : DeclId) (site : Site) :
    Option ValueSource :=
  let fromReturn := (returnType? function).bind fun type =>
    if fits type then some (.returned type)
    else (pairElement? config type element).bind fun inner =>
      if fits inner then some (.inPair inner) else none
  let fromMethod := match site with
    | .init => none
    | .intent => (firstProvider fits (s.methodProviders annotationName model)).map fun (d, type) =>
      .method d.id d.simpleName type
  let fromCompanion :=
    (firstProvider fits (s.companionProviders annotationName model)).map fun (d, type) =>
      .companion d.id d.simpleName type
  (fromReturn.or fromMethod).or fromCompanion

/-- Where the info of a retriever comes from. It has exactly the type that the retriever wants. -/
def infoSource (s : Snapshot) (config : Config) (retriever : TypeRef) (function : Declaration)
    (model : DeclId) (site : Site) : ValueSource :=
  match s.infoType retriever with
  | none => .absent none
  | some wanted =>
    (s.source? config (· = wanted) 0 config.annotations.retrieveInfo function model site).getD
      (.absent (some wanted))

/-- Where the data for a retriever comes from. It has any type that serves as retriever data. -/
def dataSource (s : Snapshot) (config : Config) (function : Declaration) (model : DeclId)
    (site : Site) : ValueSource :=
  (s.source? config (s.isAssignable config.retrieverDataType) 1 config.annotations.retrieveData
      function model site).getD
    (.absent (some { name := config.retrieverDataType }))

/-- The retriever of a function with the places of its info and data. -/
def bind (s : Snapshot) (config : Config) (function model : Declaration) (site : Site) :
    Except RetrieverMissing Binding := do
  let retriever ← findRetriever config function model
  return {
    retriever
    info := s.infoSource config retriever function model.id site
    data := s.dataSource config function model.id site }

/-- The retriever of a function given by its place in the snapshot. -/
def bindAt (s : Snapshot) (config : Config) (function model : DeclId) (site : Site) :
    Except RetrieverMissing Binding :=
  match s.get? function, s.get? model with
  | some f, some m => s.bind config f m site
  | _, _ => .error ⟨""⟩

end Snapshot

end BoundaryGen
