-- The settings of the generator. Every setting has a usual value, so that an
-- empty document is a full configuration. Settings are read from TOML or JSON;
-- keys that are no settings are skipped.
import BoundaryGen.Json.Decode
import BoundaryGen.Toml.Reader

namespace BoundaryGen

open Json (Decoder)

/-! ## Settings -/

/-- The package of the usual annotations and marker types. -/
def libraryPackage : String := "io.github.devngho.kirok"

/-- The qualified names of the annotations that the generator looks for. -/
structure AnnotationNames where
  model : String := libraryPackage ++ ".Model"
  intent : String := libraryPackage ++ ".Intent"
  init : String := libraryPackage ++ ".Init"
  retrieveWith : String := libraryPackage ++ ".RetrieveWith"
  retrieveInfo : String := libraryPackage ++ ".RetrieveInfo"
  retrieveData : String := libraryPackage ++ ".RetrieveData"
  deriving DecidableEq, Repr, Inhabited

structure Config where
  annotations : AnnotationNames := {}
  /-- The interface of every payload that goes to a retriever. -/
  retrieverDataType : String := libraryPackage ++ ".RetrieverData"
  /-- The type of two elements that may carry info and data of a retriever together. -/
  pairType : String := "kotlin.Pair"
  /-- What stands behind the package of a model in the package of its unit. -/
  packageSuffix : String := "._kirok"
  manifestFile : String := "kirok_model.json"
  useLog : Bool := false
  /-- A snapshot is meant for generation when it contains this package. -/
  wasmPackage : String := "kotlin.wasm"
  deriving DecidableEq, Repr, Inhabited

namespace Config

/-- The name of the configuration file that is looked for beside a snapshot. -/
def fileName : String := "kirok.toml"

/-- The package of the unit of a model. A unit without a package around it does not keep the dots
in front of the suffix. -/
def generatedPackage (c : Config) (modelPackage : String) : String :=
  if modelPackage.isEmpty then String.ofList (c.packageSuffix.toList.dropWhile (· = '.'))
  else modelPackage ++ c.packageSuffix

end Config

/-! ## From JSON -/

def AnnotationNames.decoder : Decoder AnnotationNames :=
  .record "AnnotationNames" {} [
    .of "model" .defaulted .text fun s n => { n with model := s },
    .of "intent" .defaulted .text fun s n => { n with intent := s },
    .of "init" .defaulted .text fun s n => { n with init := s },
    .of "retrieve_with" .defaulted .text fun s n => { n with retrieveWith := s },
    .of "retrieve_info" .defaulted .text fun s n => { n with retrieveInfo := s },
    .of "retrieve_data" .defaulted .text fun s n => { n with retrieveData := s }]

def AnnotationNames.toJson (n : AnnotationNames) : Json :=
  .map [("model", .text n.model), ("intent", .text n.intent), ("init", .text n.init),
    ("retrieve_with", .text n.retrieveWith), ("retrieve_info", .text n.retrieveInfo),
    ("retrieve_data", .text n.retrieveData)]

namespace Config

def decoder : Decoder Config :=
  .record "GeneratorConfig" {} [
    .of "annotations" .defaulted AnnotationNames.decoder fun n c => { c with annotations := n },
    .of "retriever_data_type" .defaulted .text fun s c => { c with retrieverDataType := s },
    .of "pair_type" .defaulted .text fun s c => { c with pairType := s },
    .of "package_suffix" .defaulted .text fun s c => { c with packageSuffix := s },
    .of "manifest_file" .defaulted .text fun s c => { c with manifestFile := s },
    .of "use_log" .defaulted .flag fun b c => { c with useLog := b },
    .of "wasm_package" .defaulted .text fun s c => { c with wasmPackage := s }]

def toJson (c : Config) : Json :=
  .map [("annotations", c.annotations.toJson), ("retriever_data_type", .text c.retrieverDataType),
    ("pair_type", .text c.pairType), ("package_suffix", .text c.packageSuffix),
    ("manifest_file", .text c.manifestFile), ("use_log", .bool c.useLog),
    ("wasm_package", .text c.wasmPackage)]

end Config

/-! ## From TOML -/

namespace Toml

/-- The text under a key, or the usual one when the key is not there. Anything else under the key
gives nothing. -/
def textOr (usual : String) (key : String) (entries : Entries) : Option String :=
  match entries.item? key with
  | none => some usual
  | some (.text s) => some s
  | some _ => none

/-- The flag under a key, or the usual one. -/
def flagOr (usual : Bool) (key : String) (entries : Entries) : Option Bool :=
  match entries.item? key with
  | none => some usual
  | some (.flag b) => some b
  | some _ => none

end Toml

open Toml (textOr flagOr)

namespace AnnotationNames

def ofEntries (entries : Toml.Entries) : Option AnnotationNames := do
  let usual : AnnotationNames := {}
  return {
    model := ← textOr usual.model "model" entries
    intent := ← textOr usual.intent "intent" entries
    init := ← textOr usual.init "init" entries
    retrieveWith := ← textOr usual.retrieveWith "retrieve_with" entries
    retrieveInfo := ← textOr usual.retrieveInfo "retrieve_info" entries
    retrieveData := ← textOr usual.retrieveData "retrieve_data" entries }

/-- The keys of the names in their order. -/
def keys : List String :=
  ["model", "intent", "init", "retrieve_with", "retrieve_info", "retrieve_data"]

/-- The names may stand in a table, or in a list in their order; what follows them in the list is
skipped. -/
def ofItem : Toml.Item → Option AnnotationNames
  | .table _ entries | .inline entries => ofEntries entries
  | .array items => ofEntries (keys.zip items)
  | _ => none

end AnnotationNames

namespace Config

def ofEntries (entries : Toml.Entries) : Option Config := do
  let usual : Config := {}
  return {
    annotations := ← match entries.item? "annotations" with
      | none => some usual.annotations
      | some item => AnnotationNames.ofItem item
    retrieverDataType := ← textOr usual.retrieverDataType "retriever_data_type" entries
    pairType := ← textOr usual.pairType "pair_type" entries
    packageSuffix := ← textOr usual.packageSuffix "package_suffix" entries
    manifestFile := ← textOr usual.manifestFile "manifest_file" entries
    useLog := ← flagOr usual.useLog "use_log" entries
    wasmPackage := ← textOr usual.wasmPackage "wasm_package" entries }

/-- The configuration that a TOML text writes. -/
def ofToml (s : String) : Option Config := Toml.read s >>= ofEntries

end Config

end BoundaryGen
