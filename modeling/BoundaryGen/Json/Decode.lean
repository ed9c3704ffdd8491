-- Decoding values from JSON. A decoder meets the parts of a value in the order
-- of the text and stops at the first problem. A value is decoded straight from
-- its text, or after the whole of it was read.
import BoundaryGen.Json.Reader
import BoundaryGen.OrderedMap
import BoundaryGen.Text.Quoted

namespace BoundaryGen.Json

/-! ## Problems -/

/-- Why a value cannot be decoded. -/
inductive Problem where
  /-- The text is no JSON, or nests too deep. -/
  | malformed
  | missingField (key : String)
  | duplicateField (key : String)
  | unknownVariant (found : String) (known : List String)
  | invalidType (found expected : String)
  | invalidValue (found expected : String)
  | invalidLength (count : Nat) (expected : String)
  /-- A value has none of the forms of the type `name`. -/
  | noForm (name : String)
  /-- A text in the value is refused by its own reader. -/
  | refused (reason : String)
  deriving DecidableEq, Repr

/-- A word as messages show it. -/
def ticked (word : String) : String := "`" ++ word ++ "`"

/-- The names that a message offers. -/
def offered : List String → String
  | [] => "there are no variants"
  | [a] => "expected " ++ ticked a
  | [a, b] => "expected " ++ ticked a ++ " or " ++ ticked b
  | names => "expected one of " ++ ", ".intercalate (names.map ticked)

/-- What a text that is no JSON is called in messages. The place and the kind of its fault are
not told. -/
def malformedText : String := "<syntax>"

/-- The text of a problem. -/
def Problem.message : Problem → String
  | .malformed => malformedText
  | .missingField key => "missing field " ++ ticked key
  | .duplicateField key => "duplicate field " ++ ticked key
  | .unknownVariant found known => "unknown variant " ++ ticked found ++ ", " ++ offered known
  | .invalidType found expected => "invalid type: " ++ found ++ ", expected " ++ expected
  | .invalidValue found expected => "invalid value: " ++ found ++ ", expected " ++ expected
  | .invalidLength count expected =>
    "invalid length " ++ toString count ++ ", expected " ++ expected
  | .noForm name => "data did not match any variant of untagged enum " ++ name
  | .refused reason => reason

/-- What a message calls a value. -/
def describe : Json → String
  | .null => "null"
  | .bool b => "boolean " ++ ticked (toString b)
  | .int n => "integer " ++ ticked (toString n)
  | .real => "floating point"
  | .text s => "string " ++ Text.quoted s
  | .list _ => "sequence"
  | .map _ => "map"
  | .cut | .unread | .unreadKey => "nothing"

/-- The problem of a value that is not what is expected. -/
def mismatch (value : Json) (expected : String) : Problem :=
  match value with
  | .cut | .unread | .unreadKey => .malformed
  | value => .invalidType value.describe expected

/-! ## Decoders -/

/-- How a value comes to its decoder. -/
inductive Mode where
  /-- Straight from the text. -/
  | streamed
  /-- After the whole of it was read. -/
  | held
  /-- After the whole of it was read, as one of several forms that are tried in turn. -/
  | tried
  deriving DecidableEq, Repr

/-- Decodes a value that may nest `room` levels. -/
abbrev Decoder (α : Type) := (mode : Mode) → (room : Nat) → Json → Except Problem α

namespace Decoder

variable {α σ : Type}

def text : Decoder String
  | _, _, .text s => .ok s
  | _, _, value => .error (mismatch value "a string")

def flag : Decoder Bool
  | _, _, .bool b => .ok b
  | _, _, value => .error (mismatch value "a boolean")

/-- A number of 32 bits without sign. -/
def word32 : Decoder UInt32
  | _, _, .int n =>
    if 0 ≤ n ∧ n < UInt32.size then .ok (UInt32.ofNat n.toNat)
    else .error (.invalidValue (describe (.int n)) "u32")
  | _, _, value => .error (mismatch value "u32")

/-- Null is no value. -/
def optional (decode : Decoder α) : Decoder (Option α)
  | _, _, .null => .ok none
  | mode, room, value => some <$> decode mode room value

def list (decode : Decoder α) : Decoder (List α)
  | _, 0, .list _ => .error .malformed
  | mode, room + 1, .list items => items.mapM (decode mode room)
  | _, _, value => .error (mismatch value "a sequence")

/-- The entries of a map, in their order. -/
def pairs (decode : Json → Except Problem α) :
    List (String × Json) → Except Problem (List (String × α))
  | [] => .ok []
  | (_, .unreadKey) :: _ => .error .malformed
  | (key, value) :: rest => do
    let value ← decode value
    return (key, value) :: (← pairs decode rest)

/-- Of a key that stands twice, the first place and the last value hold. -/
def orderedMap (decode : Decoder α) : Decoder (OrderedMap String α)
  | _, 0, .map _ => .error .malformed
  | mode, room + 1, .map entries => .ofList <$> pairs (decode mode room) entries
  | _, _, value => .error (mismatch value "a map")

/-! ## Names from a fixed list -/

/-- The meaning of a name from a list of names. -/
def named (known : List (String × α)) (name : String) : Except Problem α :=
  match known.lookup name with
  | some a => .ok a
  | none => .error (.unknownVariant name (known.map (·.1)))

/-- The value behind a name that carries none: null, or nothing between braces when the value
is held. -/
def unit : Decoder Unit
  | _, _, .null => .ok ()
  | .held, _, .map [] => .ok ()
  | _, _, value => .error (mismatch value "unit")

/-- One of a list of names, alone or as the single key of a map whose value is empty. -/
def variant (known : List (String × α)) : Decoder α
  | _, _, .text name => named known name
  | .streamed, room + 1, .map ((key, value) :: rest) => do
    if value matches .unreadKey then throw .malformed
    let a ← named known key
    unit .streamed room value
    unless rest.isEmpty do throw .malformed
    return a
  | .streamed, _, _ => .error .malformed
  | mode, room + 1, .map [(key, value)] => do
    let a ← named known key
    unit mode room value
    return a
  | _, _, .map _ => .error (.invalidValue "map" "map with a single key")
  | _, _, value => .error (mismatch value "string or map")

/-- The name that says which form a value has. A value that is held may say it by its place in
the list. -/
def identifier (known : List (String × α)) : Decoder α
  | _, _, .text name => named known name
  | .streamed, _, value => .error (mismatch value "variant identifier")
  | _, _, .int n =>
    if n < 0 then .error (mismatch (.int n) "variant identifier")
    else match known[n.toNat]? with
      | some (_, a) => .ok a
      | none => .error (.invalidValue (describe (.int n))
          ("variant index 0 <= i < " ++ toString known.length))
  | _, _, value => .error (mismatch value "variant identifier")

/-! ## Records -/

/-- Which forms of a record may leave a field out. -/
inductive Presence where
  | required
  /-- The map form only. -/
  | optional
  /-- The map form, and the list form at its end. -/
  | defaulted
  deriving DecidableEq, Repr

/-- A field of a record `σ`: its key, and how its value goes into the record. -/
structure Field (σ : Type) where
  key : String
  presence : Presence
  fill : Decoder (σ → σ)

/-- A field that is decoded by `decode` and put into the record by `set`. -/
def Field.of (key : String) (presence : Presence) (decode : Decoder α) (set : α → σ → σ) :
    Field σ where
  key
  presence
  fill mode room value := set <$> decode mode room value

/-- The first field that has to be there and is not. -/
def missing? (fields : List (Field σ)) (seen : List String) : Option (Field σ) :=
  fields.find? fun f => f.presence = .required ∧ f.key ∉ seen

/-- Fills a record from the entries of a map, in their order. Keys that are no field are
skipped. -/
def fillEntries (fields : List (Field σ)) (mode : Mode) (room : Nat) (seen : List String)
    (record : σ) : List (String × Json) → Except Problem σ
  | [] =>
    match missing? fields seen with
    | some f => .error (.missingField f.key)
    | none => .ok record
  | (key, value) :: rest =>
    if value matches .unreadKey then .error .malformed
    else match fields.find? (·.key = key) with
      | none =>
        if value.skips then fillEntries fields mode room seen record rest else .error .malformed
      | some f =>
        if key ∈ seen then .error (.duplicateField key)
        else do
          let fill ← f.fill mode room value
          fillEntries fields mode room (key :: seen) (fill record) rest

/-- A count of elements in words. -/
def elements (count : Nat) : String :=
  toString count ++ if count = 1 then " element" else " elements"

/-- Fills a record from the items of a list, one for each field in turn. `place` is the number
of the next field. -/
def fillItems (name : String) (total : Nat) (mode : Mode) (room : Nat) (place : Nat) (record : σ) :
    List (Field σ) → List Json → Except Problem σ
  | [], [] => .ok record
  | [], items =>
    if mode = .streamed then .error .malformed
    else .error (.invalidLength (place + items.length) (elements total ++ " in sequence"))
  | f :: fields, [] =>
    if f.presence = .defaulted then fillItems name total mode room (place + 1) record fields []
    else .error (.invalidLength place ("struct " ++ name ++ " with " ++ elements total))
  | f :: fields, item :: items => do
    let fill ← f.fill mode room item
    fillItems name total mode room (place + 1) (fill record) fields items

/-- A record as a map of its fields, or as a list of them in their order. `start` holds the
values of fields that are left out. -/
def record (name : String) (start : σ) (fields : List (Field σ)) : Decoder σ
  | _, 0, .map _ | _, 0, .list _ => .error .malformed
  | mode, room + 1, .map entries => fillEntries fields mode room [] start entries
  | mode, room + 1, .list items => fillItems name fields.length mode room 0 start fields items
  | _, _, value => .error (mismatch value ("struct " ++ name))

/-- A value whose whole text is read before `decode` starts. -/
def wholly (decode : Json → Except Problem α) : Decoder α
  | _, room, value => if value.whole room then decode value else .error .malformed

/-! ## Documents -/

/-- Decodes a document. What follows its value is looked at last. -/
def document (decode : Decoder α) (doc : Document) : Except Problem α := do
  let a ← decode .streamed levels doc.value
  unless doc.ended do throw .malformed
  return a

/-- Decodes a text. -/
def ofText (decode : Decoder α) (s : String) : Except Problem α := document decode (Json.read s)

end Decoder

end BoundaryGen.Json
