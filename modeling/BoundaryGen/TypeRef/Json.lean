-- Types in JSON. A type is written as a map of its parts. It is read from that
-- map or from its text form.
import BoundaryGen.Json.Decode
import BoundaryGen.TypeRef.Parser

namespace BoundaryGen

open Json (Problem Decoder)

/-! ## Writing -/

/-- The name of each variance. -/
def Variance.names : List (String × Variance) :=
  [("invariant", .invariant), ("in", .inward), ("out", .outward), ("star", .star)]

def Variance.name : Variance → String
  | .invariant => "invariant"
  | .inward => "in"
  | .outward => "out"
  | .star => "star"

namespace TypeRef

mutual
/-- A type as a map. Arguments are left out when there are none, and `nullable` when it is
false. -/
def toJson : TypeRef → Json
  | ⟨name, arguments, nullable⟩ =>
    let arguments := match arguments with
      | [] => []
      | arguments => [("arguments", .list (argumentsToJson arguments))]
    .map (("name", .text name) :: arguments ++ if nullable then [("nullable", .bool true)] else [])
/-- Arguments as maps. A star projection has no type to write. -/
def argumentsToJson : List TypeArgument → List Json
  | [] => []
  | ⟨variance, none⟩ :: rest =>
    .map [("variance", .text variance.name)] :: argumentsToJson rest
  | ⟨variance, some type⟩ :: rest =>
    .map [("variance", .text variance.name), ("ty", type.toJson)] :: argumentsToJson rest
end

/-! ## Reading -/

/-- Decodes an argument, its type by `decode`. -/
def argumentDecoder (decode : Decoder TypeRef) : Decoder TypeArgument :=
  .record "TypeArgument" {} [
    .of "variance" .defaulted (.variant Variance.names) fun v a => { a with variance := v },
    .of "ty" .defaulted (.optional decode) fun t a => { a with type := t }]

/-- Decodes a type whose whole text was read. Whatever is wrong inside the map form, the map has
none of the forms of a type. `depth` bounds the types inside types. -/
def heldDecoder : (depth : Nat) → Decoder TypeRef
  | 0, _, _, _ => .error .malformed
  | depth + 1, _, room, value =>
    match value with
    | .text s =>
      match parse s with
      | .ok t => .ok t
      | .error e => .error (.refused ("Type parse error: " ++ e.message))
    | .map _ =>
      let fields := [
        .of "name" .required .text fun s t => { t with name := s },
        .of "arguments" .defaulted (.list (argumentDecoder (heldDecoder depth)))
          fun as t => { t with arguments := as },
        .of "nullable" .defaulted .flag fun b t => { t with nullable := b }]
      match Decoder.record "TypeRefRepr" ({ name := "" } : TypeRef) fields .tried room value with
      | .ok t => .ok t
      | .error _ => .error (.noForm "TypeRefRepr")
    | _ => .error (.noForm "TypeRefRepr")

/-- Decodes a type. Its whole text is read first. -/
def decoder : Decoder TypeRef := fun mode room value =>
  Decoder.wholly (heldDecoder Json.levels mode room) mode room value

end TypeRef

end BoundaryGen
