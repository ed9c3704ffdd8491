-- Source files in JSON. Everything is written in full, except for parts of
-- annotations and types that are empty; fields with a usual value may be left
-- out when they are read.
import BoundaryGen.Source.Basic
import BoundaryGen.TypeRef.Json

namespace BoundaryGen

open Json (Problem Decoder)

/-! ## Annotations -/

namespace Literal

def toJson : Literal → Json
  | .flag b => .bool b
  | .number n => .int n.toInt
  | .text s => .text s
  | .type t => .map [("type", t.toJson)]

/-- Decodes a literal whose whole text was read: a flag, a number of 64 bits with sign, a map
with the key `type`, or a text. -/
def heldDecoder : Decoder Literal
  | _, _, .bool b => .ok (.flag b)
  | _, _, .text s => .ok (.text s)
  | _, _, .int n =>
    if Int64.minValue.toInt ≤ n ∧ n ≤ Int64.maxValue.toInt then .ok (.number (Int64.ofInt n))
    else .error (.noForm "AnnotationValue")
  | _, room, value@(.map _) =>
    let fields := [.of "type" .required TypeRef.decoder fun t _ => some t]
    match Decoder.record "AnnotationValue" (none : Option TypeRef) fields .tried room value with
    | .ok (some t) => .ok (.type t)
    | _ => .error (.noForm "AnnotationValue")
  | _, _, _ => .error (.noForm "AnnotationValue")

/-- Decodes a literal. Its whole text is read first. -/
def decoder : Decoder Literal := fun mode room value =>
  Decoder.wholly (heldDecoder mode room) mode room value

end Literal

namespace LiteralArgument

def toJson (a : LiteralArgument) : Json :=
  .map (Json.entryOf? "name" .text a.name ++ [("value", a.value.toJson)])

def decoder : Decoder LiteralArgument :=
  .record "AnnotationArgument" { value := .flag false } [
    .of "name" .defaulted (.optional .text) fun s a => { a with name := s },
    .of "value" .required Literal.decoder fun v a => { a with value := v }]

end LiteralArgument

namespace AnnotationUse

def toJson (a : AnnotationUse) : Json :=
  let arguments := match a.arguments with
    | [] => []
    | arguments => [("arguments", .list (arguments.map LiteralArgument.toJson))]
  .map (("name", .text a.name) :: arguments)

def decoder : Decoder AnnotationUse :=
  .record "Annotation" { name := "" } [
    .of "name" .required .text fun s a => { a with name := s },
    .of "arguments" .defaulted (.list LiteralArgument.decoder)
      fun as a => { a with arguments := as }]

end AnnotationUse

/-! ## Parts of declarations -/

/-- The names of the modifiers. -/
def Modifier.names : List (String × Modifier) :=
  [("suspend", .suspend), ("expect", .expect), ("actual", .actual), ("companion", .companion),
    ("data", .data), ("inline", .inline), ("override", .override), ("public", .publicAccess),
    ("internal", .internalAccess), ("private", .privateAccess), ("protected", .protectedAccess)]

def Modifier.name : Modifier → String
  | .suspend => "suspend"
  | .expect => "expect"
  | .actual => "actual"
  | .companion => "companion"
  | .data => "data"
  | .inline => "inline"
  | .override => "override"
  | .publicAccess => "public"
  | .internalAccess => "internal"
  | .privateAccess => "private"
  | .protectedAccess => "protected"

/-- The names of the kinds of classes. -/
def ClassKind.names : List (String × ClassKind) :=
  [("class", .plain), ("interface", .interface), ("object", .object),
    ("companion_object", .companionObject), ("enum", .enumeration)]

def ClassKind.name : ClassKind → String
  | .plain => "class"
  | .interface => "interface"
  | .object => "object"
  | .companionObject => "companion_object"
  | .enumeration => "enum"

namespace Parameter

def toJson (p : Parameter) : Json := .map [("name", .text p.name), ("type", p.type.toJson)]

def decoder : Decoder Parameter :=
  .record "Parameter" { name := "", type := { name := "" } } [
    .of "name" .required .text fun s p => { p with name := s },
    .of "type" .required TypeRef.decoder fun t p => { p with type := t }]

end Parameter

/-! ## Declarations -/

/-- What the kind of a declaration says. -/
inductive NodeKind where
  | class_
  | function
  deriving DecidableEq, Repr

def NodeKind.names : List (String × NodeKind) := [("class", .class_), ("function", .function)]

namespace Node

/-- The fields that every declaration has, where `header` and `set` reach them. -/
def headerFields {σ : Type} (update : (Header → Header) → σ → σ) : List (Decoder.Field σ) :=
  [.of "line" .defaulted .word32 fun n => update fun h => { h with line := n },
    .of "column" .defaulted .word32 fun n => update fun h => { h with column := n },
    .of "annotations" .defaulted (.list AnnotationUse.decoder)
      fun as => update fun h => { h with annotations := as },
    .of "modifiers" .defaulted (.list (.variant Modifier.names))
      fun ms => update fun h => { h with modifiers := ms }]

/-- A class while it is read. -/
structure ClassDraft where
  header : Header := { name := "" }
  shape : ClassShape := {}
  members : List Node := []

/-- Decodes a class, its members by `member`. -/
def classDecoder (member : Decoder Node) : Decoder Node := fun mode room value =>
  let fields : List (Decoder.Field ClassDraft) :=
    [.of "name" .required .text fun s d => { d with header := { d.header with name := s } },
      .of "classKind" .defaulted (.variant ClassKind.names)
        fun k d => { d with shape := { d.shape with kind := k } }]
    ++ headerFields (fun f d => { d with header := f d.header })
    ++ [.of "typeParameters" .defaulted (.list .text)
        fun ns d => { d with shape := { d.shape with typeParameters := ns } },
      .of "properties" .defaulted (.list Parameter.decoder)
        fun ps d => { d with shape := { d.shape with properties := ps } },
      .of "superTypes" .defaulted (.list TypeRef.decoder)
        fun ts d => { d with shape := { d.shape with superTypes := ts } },
      .of "members" .defaulted (.list member) fun ms d => { d with members := ms }]
  (fun d => .ofClass d.header d.shape d.members)
    <$> Decoder.record "ClassNode" {} fields mode room value

/-- A function while it is read. -/
structure FunctionDraft where
  header : Header := { name := "" }
  shape : FunctionShape := {}

/-- Decodes a function. -/
def functionDecoder : Decoder Node := fun mode room value =>
  let fields : List (Decoder.Field FunctionDraft) :=
    [.of "name" .required .text fun s d => { d with header := { d.header with name := s } }]
    ++ headerFields (fun f d => { d with header := f d.header })
    ++ [.of "parameters" .defaulted (.list Parameter.decoder)
        fun ps d => { d with shape := { d.shape with parameters := ps } },
      .of "returnType" .defaulted (.optional TypeRef.decoder)
        fun t d => { d with shape := { d.shape with returnType := t } },
      .of "receiver" .defaulted (.optional TypeRef.decoder)
        fun t d => { d with shape := { d.shape with receiver := t } }]
  (fun d => .ofFunction d.header d.shape)
    <$> Decoder.record "FunctionNode" {} fields mode room value

/-- The kind that the entries of a declaration say, and the other entries. The kind is read
where it stands; the value of every other entry is read whole and kept. -/
def splitKind (mode : Json.Mode) (room : Nat) (kind? : Option NodeKind) :
    List (String × Json) → Except Problem (NodeKind × List (String × Json))
  | [] =>
    match kind? with
    | none => .error (.missingField "kind")
    | some kind => .ok (kind, [])
  | (key, value) :: rest =>
    if value matches .unreadKey then .error .malformed
    else if key = "kind" then do
      if kind?.isSome then throw (.duplicateField "kind")
      splitKind mode room (some (← Decoder.identifier NodeKind.names mode room value)) rest
    else if value.whole room then do
      let (kind, others) ← splitKind mode room kind? rest
      return (kind, (key, value) :: others)
    else .error .malformed

/-- Decodes a declaration. In its map form the kind may stand anywhere, in its list form it comes
first. `depth` bounds the classes inside classes. -/
def decoderWithin : (depth : Nat) → Decoder Node
  | 0, _, _, _ => .error .malformed
  | depth + 1, mode, room, value =>
    let ofKind (kind : NodeKind) (parts : Json) : Except Problem Node :=
      match kind with
      | .class_ => classDecoder (decoderWithin depth) .held room parts
      | .function => functionDecoder .held room parts
    match room, value with
    | 0, .map _ | 0, .list _ => .error .malformed
    | inside + 1, .map entries => do
      let (kind, others) ← splitKind mode inside none entries
      ofKind kind (.map others)
    | _ + 1, .list [] => .error (.missingField "kind")
    | inside + 1, .list (first :: others) => do
      let kind ← Decoder.identifier NodeKind.names mode inside first
      unless Json.wholeAll inside others do throw .malformed
      ofKind kind (.list others)
    | _, value => .error (Json.mismatch value "internally tagged enum DeclarationNode")

def decoder : Decoder Node := decoderWithin Json.levels

/-- The entries of a header that stand behind the name. -/
def headerEntries (h : Header) : List (String × Json) :=
  [("line", .int h.line.toNat), ("column", .int h.column.toNat),
    ("annotations", .list (h.annotations.map AnnotationUse.toJson)),
    ("modifiers", Json.texts (h.modifiers.map Modifier.name))]

mutual
/-- A declaration in full. -/
def toJson : Node → Json
  | .ofClass h c members =>
    .map ([("kind", .text "class"), ("name", .text h.name), ("classKind", .text c.kind.name)]
      ++ headerEntries h
      ++ [("typeParameters", Json.texts c.typeParameters),
        ("properties", .list (c.properties.map Parameter.toJson)),
        ("superTypes", .list (c.superTypes.map TypeRef.toJson)),
        ("members", .list (membersToJson members))])
  | .ofFunction h f =>
    .map ([("kind", .text "function"), ("name", .text h.name)]
      ++ headerEntries h
      ++ [("parameters", .list (f.parameters.map Parameter.toJson)),
        ("returnType", Json.orNull TypeRef.toJson f.returnType),
        ("receiver", Json.orNull TypeRef.toJson f.receiver)])
/-- Each declaration in full. -/
def membersToJson : List Node → List Json
  | [] => []
  | node :: rest => node.toJson :: membersToJson rest
end

end Node

/-! ## Files -/

namespace SourceFile

def toJson (file : SourceFile) : Json :=
  .map [("path", .text file.path), ("package", .text file.package),
    ("declarations", .list (Node.membersToJson file.declarations))]

def decoder : Decoder SourceFile :=
  .record "SourceFile" { path := "" } [
    .of "path" .required .text fun s f => { f with path := s },
    .of "package" .defaulted .text fun s f => { f with package := s },
    .of "declarations" .defaulted (.list Node.decoder) fun ns f => { f with declarations := ns }]

/-- A document of source files. -/
def documentToJson (files : List SourceFile) : Json := .map [("files", .list (files.map toJson))]

/-- Decodes a document of source files. -/
def documentDecoder : Decoder (List SourceFile) :=
  .record "SnapshotFile" [] [.of "files" .defaulted (.list decoder) fun files _ => files]

end SourceFile

end BoundaryGen
