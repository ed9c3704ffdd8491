-- Resolved models in JSON, as the inspection of a snapshot shows them. Places
-- in the snapshot are not shown.
import BoundaryGen.Model.Retriever
import BoundaryGen.Source.Json

namespace BoundaryGen

def Convention.name : Convention → String
  | .free => "FreeFunction"
  | .method => "Method"
  | .extension => "ExtensionFunction"

def Placement.toJson : Placement → Json
  | .topLevel => .text "TopLevel"
  | .companion owner => .map [("Companion", .map [("owner", .text owner)])]
  | .nested parent => .map [("Nested", .map [("parent", .text parent)])]

def parametersToJson (parameters : List Parameter) : Json :=
  .list (parameters.map Parameter.toJson)

def typeOrNull (type : Option TypeRef) : Json := Json.orNull TypeRef.toJson type

def Intent.toJson (i : Intent) : Json :=
  .map [("name", .text i.name), ("qualified_name", .text i.qualifiedName),
    ("convention", .text i.convention.name),
    ("declared_parameters", parametersToJson i.parameters),
    ("return_type", typeOrNull i.returnType), ("is_async", .bool i.isAsync),
    ("uses_retriever", .bool i.usesRetriever)]

def Init.toJson (i : Init) : Json :=
  .map [("name", .text i.name), ("qualified_name", .text i.qualifiedName),
    ("placement", i.placement.toJson), ("parameters", parametersToJson i.parameters),
    ("return_type", typeOrNull i.returnType), ("is_async", .bool i.isAsync),
    ("uses_retriever", .bool i.usesRetriever)]

def Model.toJson (m : Model) : Json :=
  .map [("name", .text m.name), ("qualified_name", .text m.qualifiedName),
    ("package_name", .text m.package), ("ty", m.type.toJson),
    ("fields", parametersToJson m.fields), ("init", Json.orNull Init.toJson m.init),
    ("intents", .list (m.intents.map Intent.toJson)), ("retriever", typeOrNull m.retriever)]

def ValueSource.toJson : ValueSource → Json
  | .returned type => .map [("location", .text "ReturnValueSingle"), ("ty", type.toJson)]
  | .inPair type => .map [("location", .text "ReturnValuePair"), ("ty", type.toJson)]
  | .method _ name type =>
    .map [("location", .text "Method"), ("name", .text name), ("ty", type.toJson)]
  | .companion _ name type =>
    .map [("location", .text "Companion"), ("name", .text name), ("ty", type.toJson)]
  | .absent type => .map [("location", .text "None"), ("ty", typeOrNull type)]

def Binding.toJson (b : Binding) : Json :=
  .map [("retriever", b.retriever.toJson), ("info", b.info.toJson), ("data", b.data.toJson)]

end BoundaryGen
