-- Wrappers and units in JSON. Every step says in a field of its own which step
-- it is.
import BoundaryGen.Model.Json
import BoundaryGen.Wrapper.Basic

namespace BoundaryGen

def CallTarget.toJson : CallTarget → Json
  | .function qualifiedName =>
    .map [("Function", .map [("qualified_name", .text qualifiedName)])]
  | .member receiver name importName =>
    .map [("Member", .map [("receiver", .text receiver), ("name", .text name),
      ("import", Json.orNull .text importName)])]
  | .companion owner name =>
    .map [("Companion", .map [("owner", .text owner), ("name", .text name)])]

def Step.toJson : Step → Json
  | .decode var i type =>
    .map [("step", .text "Decode"), ("var", .text var), ("index", .int i), ("ty", type.toJson)]
  | .loadModel var function source =>
    .map [("step", .text "LoadModel"), ("var", .text var), ("load_fn", .text function),
      ("source", .text source)]
  | .call result target arguments =>
    .map [("step", .text "Call"), ("result", Json.orNull .text result),
      ("target", target.toJson), ("args", Json.texts arguments)]
  | .retrieve r =>
    .map [("step", .text "Retrieve"), ("result", .text r.result), ("source", .text r.source),
      ("model_var", Json.orNull .text r.modelVariable),
      ("intent_name", Json.orNull .text r.intentName), ("model_type", r.modelType.toJson),
      ("model_name", .text r.modelName), ("retriever", r.retriever.toJson),
      ("info", r.info.toJson), ("data", r.data.toJson)]
  | .encode var value function =>
    .map [("step", .text "Encode"), ("var", .text var), ("value", .text value),
      ("save_fn", .text function)]
  | .giveBack var => .map [("step", .text "Return"), ("var", .text var)]
  | .giveBackLater var => .map [("step", .text "ReturnAsync"), ("var", .text var)]

def WrapperKind.name : WrapperKind → String
  | .init => "Init"
  | .intent => "Intent"

def Capability.toJson : Capability → Json
  | .boundaryExport => .text "BoundaryExport"
  | .optIn name => .map [("OptIn", .text name)]

def ReturnKind.name : ReturnKind → String
  | .text => "SyncString"
  | .handle => "AsyncHandle"

/-- The fields of a wrapper. -/
def Wrapper.entries (w : Wrapper) : List (String × Json) :=
  [("name", .text w.name), ("kind", .text w.kind.name), ("source_function", .text w.function),
    ("parameters", Json.texts w.parameters), ("steps", .list (w.steps.map Step.toJson)),
    ("capabilities", .list (w.capabilities.map Capability.toJson)),
    ("return_kind", .text w.returnKind.name)]

def Wrapper.toJson (w : Wrapper) : Json := .map w.entries

/-- The fields of a unit, each wrapper encoded by `encode`. -/
def WrapperUnit.entries (encode : Wrapper → Json) (u : WrapperUnit) : List (String × Json) :=
  [("model", .text u.model), ("model_name", .text u.modelName),
    ("model_type", u.modelType.toJson), ("package", .text u.package),
    ("file_name", .text u.fileName), ("save_fn", .text u.saveFunction),
    ("load_fn", .text u.loadFunction), ("init", Json.orNull encode u.init),
    ("intents", .list (u.intents.map encode))]

def WrapperUnit.toJson (u : WrapperUnit) : Json := .map (u.entries Wrapper.toJson)

end BoundaryGen
