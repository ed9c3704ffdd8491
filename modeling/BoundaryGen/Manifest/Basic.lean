-- Manifests: the shape of every model, for generators on the other side of the
-- boundary. Types stand as texts, and all maps keep the order of declaration.
import BoundaryGen.Json.Decode
import BoundaryGen.Json.Printer
import BoundaryGen.Model.Check

namespace BoundaryGen

open Json (Decoder Problem)

/-! ## Documents -/

/-- Parameter names with the texts of their types. -/
abbrev ParameterMap := OrderedMap String String

structure ModelData where
  values : ParameterMap
  init : ParameterMap
  isInitSuspend : Bool
  intents : OrderedMap String ParameterMap
  deriving DecidableEq, Repr, Inhabited

/-- The data of each model under its qualified name. -/
structure Manifest where
  models : OrderedMap String ModelData
  deriving DecidableEq, Repr, Inhabited

/-! ## JSON -/

/-- A map with each value encoded. -/
def OrderedMap.toJson {α : Type} (encode : α → Json) (m : OrderedMap String α) : Json :=
  .map (m.entries.map fun (key, value) => (key, encode value))

namespace ModelData

def toJson (d : ModelData) : Json :=
  .map [("values", d.values.toJson .text), ("init", d.init.toJson .text),
    ("isInitSuspend", .bool d.isInitSuspend),
    ("intents", d.intents.toJson (OrderedMap.toJson .text))]

def decoder : Decoder ModelData :=
  .record "ModelData" default [
    .of "values" .required (.orderedMap .text) fun m d => { d with values := m },
    .of "init" .required (.orderedMap .text) fun m d => { d with init := m },
    .of "isInitSuspend" .required .flag fun b d => { d with isInitSuspend := b },
    .of "intents" .required (.orderedMap (.orderedMap .text)) fun m d => { d with intents := m }]

end ModelData

namespace Manifest

def toJson (m : Manifest) : Json := m.models.toJson ModelData.toJson

def text (m : Manifest) : String := m.toJson.pretty

def decoder : Decoder Manifest := fun mode room value =>
  Manifest.mk <$> Decoder.orderedMap ModelData.decoder mode room value

/-- The manifest that a text writes. -/
def parse (s : String) : Except Problem Manifest := Decoder.ofText decoder s

end Manifest

end BoundaryGen
