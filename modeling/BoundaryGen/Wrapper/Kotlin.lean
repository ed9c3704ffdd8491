-- Units as Kotlin source. The body of a wrapper is a list of statements, each
-- on a line of its own; a unit is its header, the functions that save and load
-- the model, and its wrappers.
import BoundaryGen.Config
import BoundaryGen.Files.Path
import BoundaryGen.TypeRef.Printer
import BoundaryGen.Wrapper.Synthesis

namespace BoundaryGen.Kotlin

/-! ## Expressions -/

inductive Expr where
  | var (name : String)
  | null
  /-- An item of a list. -/
  | element (list : Expr) (index : Nat)
  /-- What a text stands for as a value of a type. -/
  | decoded (type : String) (text : Expr)
  | call (function : String) (arguments : List Expr)
  | member (receiver : Expr) (name : String) (arguments : List Expr)
  | property (receiver : Expr) (name : String)
  | classOf (name : String)
  /-- A text between quotes. -/
  | quoted (text : String)
  /-- An object of a type that adds nothing to it. -/
  | emptyObject (type : String)

namespace Expr

mutual
def render : Expr → String
  | .var name => name
  | .null => "null"
  | .element list i => list.render ++ "[" ++ toString i ++ "]"
  | .decoded type text => "Json.decodeFromString<" ++ type ++ ">(" ++ text.render ++ ")"
  | .call function arguments => function ++ "(" ++ ", ".intercalate (renderAll arguments) ++ ")"
  | .member receiver name arguments =>
    receiver.render ++ "." ++ name ++ "(" ++ ", ".intercalate (renderAll arguments) ++ ")"
  | .property receiver name => receiver.render ++ "." ++ name
  | .classOf name => name ++ "::class"
  | .quoted text => "\"" ++ text ++ "\""
  | .emptyObject type => "object : " ++ type ++ " \x7b\x7d"
def renderAll : List Expr → List String
  | [] => []
  | e :: rest => e.render :: renderAll rest
end

end Expr

/-! ## Statements -/

inductive Statement where
  /-- Declares a variable. -/
  | val (name : String) (value : Expr)
  | run (value : Expr)
  | giveBack (value : Expr)
  /-- Gives a value back to the host from inside a task. -/
  | giveBackLater (value : Expr)

def Statement.render : Statement → String
  | .val name value => "val " ++ name ++ " = " ++ value.render
  | .run value => value.render
  | .giveBack value => "return " ++ value.render
  | .giveBackLater value => "return@promise " ++ value.render

/-- The variable of the list of argument texts. -/
def listVariable : String := "list"

/-- The variable of the info for a retriever. -/
def infoVariable : String := "info"

/-- The variable of the data for a retriever. -/
def dataVariable : String := "data"

/-- The call that a step makes. -/
def callOf (target : CallTarget) (arguments : List String) : Expr :=
  let arguments := arguments.map Expr.var
  match target with
  | .function name => .call name arguments
  | .member receiver name _ => .member (.var receiver) name arguments
  | .companion owner name => .call (owner ++ "." ++ name) arguments

/-- The value that comes from a place, or `neutral` when there is none. `element` is the element
of a pair that is taken. -/
def valueFrom (step : RetrieveStep) (element : String) (neutral : Expr) : ValueSource → Expr
  | .returned _ => .var step.source
  | .inPair _ => .property (.var step.source) element
  | .method _ name _ =>
    match step.modelVariable with
    | some var => .member (.var var) name []
    | none => neutral
  | .companion _ name _ => .call (step.modelName ++ "." ++ name) []
  | .absent _ => neutral

/-- The call of a retriever. A retriever hears of the intent and the model when there are both. -/
def retrieverCall (step : RetrieveStep) (dataType : TypeRef) : Expr :=
  let last : List Expr :=
    [.classOf step.modelName, .classOf dataType.name, .quoted step.modelName,
      .quoted dataType.name, .var dataVariable]
  match step.intentName, step.modelVariable with
  | some intent, some var =>
    .call (step.retriever.name ++ ".intent")
      (.var infoVariable :: .quoted intent :: .var var :: last)
  | _, _ => .call (step.retriever.name ++ ".retrieve") (.var infoVariable :: last)

/-- The statements of a step. `usualDataType` names the type of data without a type. -/
def statementsOf (usualDataType : String) : Step → List Statement
  | .decode var i type =>
    [.val var (.decoded type.render (.element (.var listVariable) i))]
  | .loadModel var function source => [.val var (.call function [.var source])]
  | .call (some result) target arguments => [.val result (callOf target arguments)]
  | .call none target arguments => [.run (callOf target arguments)]
  | .retrieve step =>
    let dataType := step.dataType usualDataType
    [.val infoVariable (valueFrom step "first" .null step.info),
      .val dataVariable (valueFrom step "second" (.emptyObject dataType.render) step.data),
      .val step.result (retrieverCall step dataType)]
  | .encode var value function => [.val var (.call function [.var value])]
  | .giveBack var => [.giveBack (.var var)]
  | .giveBackLater var => [.giveBackLater (.member (.var var) "toJsString" [])]

/-- The statement that takes the list of argument texts apart. -/
def listStatement : Statement :=
  .val listVariable (.decoded "List<String>" (.var argumentsParameter))

/-- The statements of a wrapper. The list of argument texts is made before the first argument is
decoded. -/
def body (usualDataType : String) : List Step → List Statement
  | [] => []
  | step :: rest =>
    if step.isDecode then
      listStatement :: (step :: rest).flatMap (statementsOf usualDataType)
    else statementsOf usualDataType step ++ body usualDataType rest

/-! ## Lines -/

/-- A line and how deep it is indented. -/
structure Line where
  depth : Nat
  text : String
  deriving Repr

/-- Four spaces to a level. An empty line stays empty. -/
def Line.render (l : Line) : String :=
  if l.text.isEmpty then "\n"
  else String.ofList (List.replicate (4 * l.depth) ' ') ++ l.text ++ "\n"

def blankLine : Line := ⟨0, ""⟩

/-- The type of the handle that the host gets. -/
def handleType : String := "kotlin.js.Promise<kotlin.js.JsAny?>"

def capabilityLine : Capability → Line
  | .optIn name => ⟨0, "@OptIn(" ++ name ++ "::class)"⟩
  | .boundaryExport => ⟨0, "@JsExport"⟩

/-- The first line of a wrapper. -/
def signature (w : Wrapper) : String :=
  let parameters := ", ".intercalate (w.parameters.map (· ++ ": String"))
  let returnType := match w.returnKind with
    | .text => "String"
    | .handle => handleType
  "fun " ++ w.name ++ "(" ++ parameters ++ "): " ++ returnType ++ " \x7b"

/-- The lines of a wrapper, with an empty line in front. -/
def wrapperLines (usualDataType : String) (w : Wrapper) : List Line :=
  let statements := (body usualDataType w.steps).map Statement.render
  let inner := if w.isAsync then
      ⟨1, "return CoroutineScope(Job()).promise \x7b"⟩
        :: statements.map (⟨2, ·⟩) ++ [⟨1, "\x7d"⟩]
    else statements.map (⟨1, ·⟩)
  blankLine :: w.capabilities.map capabilityLine ++ [⟨0, signature w⟩] ++ inner ++ [⟨0, "\x7d"⟩]

/-- What every unit imports. -/
def serializationImports : List String :=
  ["kotlinx.serialization.decodeFromString", "kotlinx.serialization.encodeToString",
    "kotlinx.serialization.json.Json"]

/-- What a unit with a handle imports besides. -/
def taskImports : List String :=
  ["kotlinx.coroutines.CoroutineScope", "kotlinx.coroutines.Job", "kotlinx.coroutines.promise"]

/-- The imports of a unit in rising order. -/
def importsOf (u : WrapperUnit) : List String :=
  sortedNames <| serializationImports
    ++ (if u.wrappers.any Wrapper.isAsync then taskImports else []) ++ u.imports

def headerLines (u : WrapperUnit) : List Line :=
  [⟨0, "// Generated by kirok-gen from " ++ u.model ++ ". Do not edit."⟩,
    ⟨0, "package " ++ u.package⟩, blankLine]
  ++ (importsOf u).map (fun name => ⟨0, "import " ++ name⟩) ++ [blankLine]

/-- The functions that save and load the model. -/
def saveLoadLines (u : WrapperUnit) : List Line :=
  let type := u.modelType.render
  [⟨0, "fun " ++ u.saveFunction ++ "(model: " ++ type ++ "): String = Json.encodeToString(model)"⟩,
    blankLine,
    ⟨0, "fun " ++ u.loadFunction ++ "(model: String): " ++ type ++ " = Json.decodeFromString<"
      ++ type ++ ">(model)"⟩]

/-! ## Units -/

def lines (usualDataType : String) (u : WrapperUnit) : List Line :=
  headerLines u ++ saveLoadLines u ++ u.wrappers.flatMap (wrapperLines usualDataType)

/-- The source text of a unit. -/
def source (usualDataType : String) (u : WrapperUnit) : String :=
  String.join ((lines usualDataType u).map Line.render)

/-- The name of the language, as the program shows it. -/
def name : String := "kotlin"

/-- The ending of source files, without the dot. -/
def fileExtension : String := "kt"

/-- The path of a unit below the directory of sources: a directory for each part of its package,
and its file. -/
def relativePath (u : WrapperUnit) : String :=
  let parts := ((Path.splitAt '.' u.package.toList).map String.ofList).filter (!·.isEmpty)
  Path.join (Path.ofParts parts) (u.fileName ++ "." ++ fileExtension)

end BoundaryGen.Kotlin
