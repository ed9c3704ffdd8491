-- The values that stand for source files in a document: types may be given by their texts, and
-- fields that hold their usual value may be left out. All such documents make the snapshot that the
-- files themselves make.
import Mathlib
import BoundaryGen.Error
import BoundaryGen.Proofs.Snapshot.Listing
import BoundaryGen.Proofs.TypeRef.Spelling
import BoundaryGen.Source.Build

namespace BoundaryGen

open Json (Decoder Entries Part Reads Serves SpellsList SpellsOption SpellsRecord)

variable {value : Json}

/-! ## Annotations -/

/-- A value stands for a literal. Only types have more than one. -/
inductive Literal.Spells : Literal → Json → Prop
  | flag {b : Bool} : Spells (.flag b) (.bool b)
  | number {n : Int64} : Spells (.number n) (.int n.toInt)
  | text {s : String} : Spells (.text s) (.text s)
  | type {t : TypeRef} {value : Json} : t.Spells value → Spells (.type t) (.map [("type", value)])

theorem Literal.spells_toJson (l : Literal) : l.Spells l.toJson := by
  cases l with
  | flag b => exact .flag
  | number n => exact .number
  | text s => exact .text
  | type t => exact .type t.spells_toJson

theorem Literal.reads_type {t : TypeRef} (h : t.Spells value) :
    Reads Json.levels decoder (.type t) (Literal.type t).toJson (.map [("type", value)]) := by
  have hserves : Serves Json.levels
      [{ key := "type", written := t.toJson, Spelled := t.Spells }]
      [.of "type" .required TypeRef.decoder fun t _ => some t] none (some t) :=
    .part t (fun _ => TypeRef.Spells.decoder) nofun .nil
  have hrecord := hserves.reads (by decide) (.given h .nil) "AnnotationValue"
  apply Reads.wholly
  refine ⟨hrecord.writable, hrecord.whole, fun mode room hroom hwhole => ?_⟩
  rw [heldDecoder, hrecord.decoded .tried (hroom.trans (Nat.le_succ _)) hwhole]

theorem Literal.Spells.reads {l : Literal} (h : l.Spells value) :
    Reads Json.levels decoder l l.toJson value := by
  cases h with
  | flag => exact .wholly (.self trivial fun _ _ => rfl)
  | @number n =>
    have hmin := n.minValue_le_toInt
    have hmax := n.toInt_le
    have hlow := n.le_toInt
    have hhigh := n.toInt_lt
    refine .wholly (.self ⟨hlow, by omega⟩ fun _ _ => ?_)
    show (if _ then Except.ok (Literal.number (Int64.ofInt n.toInt)) else _) = _
    rw [if_pos ⟨hmin, hmax⟩, Int64.ofInt_toInt]
  | text => exact .wholly (.self trivial fun _ _ => rfl)
  | type ht => exact reads_type ht

namespace LiteralArgument

def nameParts (name : Option String) : List Part :=
  match name with
  | none => []
  | some name => [{ key := "name", written := .text name }]

def parts (a : LiteralArgument) : List Part :=
  nameParts a.name ++ [{ key := "value", written := a.value.toJson, Spelled := a.value.Spells }]

/-- A value stands for an argument of an annotation. -/
def Spells (a : LiteralArgument) (value : Json) : Prop := SpellsRecord a.parts value

theorem toJson_eq (a : LiteralArgument) : a.toJson = .map (a.parts.map Part.entry) := by
  obtain ⟨name, literal⟩ := a
  cases name <;> rfl

theorem spells_toJson (a : LiteralArgument) : a.Spells a.toJson := by
  rw [toJson_eq]
  apply Json.spellsRecord_self
  obtain ⟨name, literal⟩ := a
  cases name <;> simp [parts, nameParts, literal.spells_toJson]

theorem Spells.reads {a : LiteralArgument} (h : a.Spells value) :
    Reads Json.levels decoder a a.toJson value := by
  rw [toJson_eq]
  obtain ⟨name, literal⟩ := a
  have hvalue : Serves Json.levels
      [{ key := "value", written := literal.toJson, Spelled := literal.Spells }]
      [.of "value" .required Literal.decoder fun v a => { a with value := v }]
      ({ name, value := .flag false } : LiteralArgument) { name, value := literal } :=
    .part literal (fun _ => Literal.Spells.reads) nofun .nil
  refine Serves.readsRecord ?_ (by simp [Decoder.Field.of]) h "AnnotationArgument"
  cases name with
  | none => exact .none (by decide) hvalue
  | some name => exact .fixed (some name) ((Reads.text name).present Json.noConfusion) hvalue

end LiteralArgument

namespace AnnotationUse

def argumentsParts (arguments : List LiteralArgument) : List Part :=
  match arguments with
  | [] => []
  | arguments => [{
      key := "arguments"
      written := .list (arguments.map LiteralArgument.toJson)
      Spelled := SpellsList LiteralArgument.Spells arguments }]

def parts (a : AnnotationUse) : List Part :=
  { key := "name", written := .text a.name } :: argumentsParts a.arguments

/-- A value stands for an annotation. -/
def Spells (a : AnnotationUse) (value : Json) : Prop := SpellsRecord a.parts value

theorem toJson_eq (a : AnnotationUse) : a.toJson = .map (a.parts.map Part.entry) := by
  obtain ⟨name, arguments⟩ := a
  cases arguments <;> rfl

theorem spells_toJson (a : AnnotationUse) : a.Spells a.toJson := by
  rw [toJson_eq]
  apply Json.spellsRecord_self
  obtain ⟨name, arguments⟩ := a
  have harguments := Json.spellsList_self LiteralArgument.spells_toJson arguments
  cases arguments with
  | nil => simp [parts, argumentsParts]
  | cons => simpa [parts, argumentsParts] using harguments

theorem Spells.reads {a : AnnotationUse} (h : a.Spells value) :
    Reads Json.levels decoder a a.toJson value := by
  rw [toJson_eq]
  obtain ⟨name, arguments⟩ := a
  refine Serves.readsRecord (.fixed name (.text name) ?_) (by simp [Decoder.Field.of]) h
    "Annotation"
  cases arguments with
  | nil => exact .none (by decide) .nil
  | cons a as =>
    exact .part (a :: as) (fun _ => Reads.ofSpellsList LiteralArgument.Spells.reads) nofun .nil

end AnnotationUse

/-! ## Parts of declarations -/

namespace Parameter

def parts (p : Parameter) : List Part :=
  [{ key := "name", written := .text p.name },
    { key := "type", written := p.type.toJson, Spelled := p.type.Spells }]

/-- A value stands for a parameter or a property. -/
def Spells (p : Parameter) (value : Json) : Prop := SpellsRecord p.parts value

theorem spells_toJson (p : Parameter) : p.Spells p.toJson := by
  show SpellsRecord p.parts (.map (p.parts.map Part.entry))
  apply Json.spellsRecord_self
  simp [parts, p.type.spells_toJson]

theorem Spells.reads {p : Parameter} (h : p.Spells value) :
    Reads Json.levels decoder p p.toJson value := by
  refine Serves.readsRecord (.fixed p.name (.text p.name) ?_) (by simp [Decoder.Field.of]) h
    "Parameter"
  exact .part p.type (fun _ => TypeRef.Spells.decoder) nofun .nil

end Parameter

theorem Modifier.lookup_name (m : Modifier) : Modifier.names.lookup m.name = some m := by
  cases m <;> decide

theorem ClassKind.lookup_name (kind : ClassKind) :
    ClassKind.names.lookup kind.name = some kind := by
  cases kind <;> decide

/-! ## Declarations -/

namespace Node

/-- The parts of a header behind the name. Each may be left out when it holds its usual value. -/
def headerParts (h : Header) : List Part :=
  [{ key := "line", written := .int h.line.toNat, MayLack := h.line = 0 },
    { key := "column", written := .int h.column.toNat, MayLack := h.column = 0 },
    { key := "annotations"
      written := .list (h.annotations.map AnnotationUse.toJson)
      Spelled := SpellsList AnnotationUse.Spells h.annotations
      MayLack := h.annotations = [] },
    { key := "modifiers"
      written := Json.texts (h.modifiers.map Modifier.name)
      MayLack := h.modifiers = [] }]

/-- The parts of a class behind its header, its members spelled as some items. -/
def bodyParts (c : ClassShape) (members : List Node) (items : List Json) : List Part :=
  [{ key := "typeParameters"
     written := Json.texts c.typeParameters
     MayLack := c.typeParameters = [] },
    { key := "properties"
      written := .list (c.properties.map Parameter.toJson)
      Spelled := SpellsList Parameter.Spells c.properties
      MayLack := c.properties = [] },
    { key := "superTypes"
      written := .list (c.superTypes.map TypeRef.toJson)
      Spelled := SpellsList TypeRef.Spells c.superTypes
      MayLack := c.superTypes = [] },
    { key := "members"
      written := .list (membersToJson members)
      Spelled := (· = .list items)
      MayLack := members = [] }]

/-- The parts of a class whose members are spelled as some items. -/
def classParts (h : Header) (c : ClassShape) (members : List Node) (items : List Json) :
    List Part :=
  { key := "name", written := .text h.name } ::
  { key := "classKind", written := .text c.kind.name, MayLack := c.kind = .plain } ::
  (headerParts h ++ bodyParts c members items)

/-- The parts of a function behind its header. -/
def signatureParts (f : FunctionShape) : List Part :=
  [{ key := "parameters"
     written := .list (f.parameters.map Parameter.toJson)
     Spelled := SpellsList Parameter.Spells f.parameters
     MayLack := f.parameters = [] },
    { key := "returnType"
      written := Json.orNull TypeRef.toJson f.returnType
      Spelled := SpellsOption TypeRef.Spells f.returnType
      MayLack := f.returnType = none },
    { key := "receiver"
      written := Json.orNull TypeRef.toJson f.receiver
      Spelled := SpellsOption TypeRef.Spells f.receiver
      MayLack := f.receiver = none }]

/-- The parts of a function. -/
def functionParts (h : Header) (f : FunctionShape) : List Part :=
  { key := "name", written := .text h.name } :: (headerParts h ++ signatureParts f)

mutual
/-- A value stands for a declaration: a map of its kind and of its parts. -/
inductive Spells : Node → Json → Prop
  | ofClass {h : Header} {c : ClassShape} {members : List Node} {items : List Json}
      {entries : List (String × Json)} :
    SpellsMembers members items → Entries (classParts h c members items) entries →
    Spells (.ofClass h c members) (.map (("kind", .text "class") :: entries))
  | ofFunction {h : Header} {f : FunctionShape} {entries : List (String × Json)} :
    Entries (functionParts h f) entries →
    Spells (.ofFunction h f) (.map (("kind", .text "function") :: entries))
/-- Items stand for the members of a class. -/
inductive SpellsMembers : List Node → List Json → Prop
  | nil : SpellsMembers [] []
  | cons {node : Node} {value : Json} {rest : List Node} {items : List Json} :
    Spells node value → SpellsMembers rest items → SpellsMembers (node :: rest) (value :: items)
end

theorem toJson_ofClass (h : Header) (c : ClassShape) (members : List Node) (items : List Json) :
    (ofClass h c members).toJson =
      .map (("kind", .text "class") :: (classParts h c members items).map Part.entry) := by
  rw [toJson]
  rfl

theorem toJson_ofFunction (h : Header) (f : FunctionShape) :
    (ofFunction h f).toJson =
      .map (("kind", .text "function") :: (functionParts h f).map Part.entry) := by
  rw [toJson]
  rfl

theorem spelled_headerParts (h : Header) :
    ∀ part ∈ headerParts h, part.Spelled part.written := by
  have hannotations := Json.spellsList_self AnnotationUse.spells_toJson h.annotations
  simpa [headerParts] using hannotations

mutual
/-- A declaration in full stands for itself. -/
theorem spells_toJson : ∀ node : Node, node.Spells node.toJson
  | .ofClass h c members => by
    rw [toJson_ofClass h c members (membersToJson members)]
    have hproperties := Json.spellsList_self Parameter.spells_toJson c.properties
    have hsuperTypes := Json.spellsList_self TypeRef.spells_toJson c.superTypes
    refine .ofClass (spellsMembers_toJson members) (Json.entries_self ?_)
    simp only [classParts, bodyParts, List.forall_mem_append, List.forall_mem_cons]
    exact ⟨trivial, trivial, spelled_headerParts h, trivial, hproperties, hsuperTypes, trivial,
      nofun⟩
  | .ofFunction h f => by
    rw [toJson_ofFunction]
    have hparameters := Json.spellsList_self Parameter.spells_toJson f.parameters
    have hreturn := Json.spellsOption_self TypeRef.spells_toJson f.returnType
    have hreceiver := Json.spellsOption_self TypeRef.spells_toJson f.receiver
    refine .ofFunction (Json.entries_self ?_)
    simp only [functionParts, signatureParts, List.forall_mem_append, List.forall_mem_cons]
    exact ⟨trivial, spelled_headerParts h, hparameters, hreturn, hreceiver, nofun⟩
theorem spellsMembers_toJson : ∀ members : List Node, SpellsMembers members (membersToJson members)
  | [] => .nil
  | node :: rest => .cons (spells_toJson node) (spellsMembers_toJson rest)
end

/-! ## Headers -/

section Headers

variable {σ : Type} {bound : Nat} {parts : List Part} {fields : List (Decoder.Field σ)} {r : σ}
  {update : (Header → Header) → σ → σ}

/-- A part of a header is read into a record that is made around the header. -/
theorem serves_update {α : Type} (make : Header → σ)
    (hupdate : ∀ f h, update f (make h) = make (f h)) {part : Part} {decode : Decoder α}
    {set : α → Header → Header} {h : Header} (a : α)
    (hreads : ∀ value, part.Spelled value → Reads bound decode a part.written value)
    (hlack : part.MayLack → set a h = h) (hrest : Serves bound parts fields (make (set a h)) r) :
    Serves bound (part :: parts)
      (.of part.key .defaulted decode (fun a => update (set a)) :: fields) (make h) r := by
  refine .part a hreads (fun hmay => ⟨by decide, ?_⟩) ?_
  · rw [hupdate, hlack hmay]
  · rw [hupdate]
    exact hrest

theorem reads_modifiers (modifiers : List Modifier) :
    Reads bound (Decoder.list (.variant Modifier.names)) modifiers
      (Json.texts (modifiers.map Modifier.name)) (Json.texts (modifiers.map Modifier.name)) := by
  rw [Json.texts, List.map_map]
  exact Reads.listSelf (fun m => .variant m.lookup_name) modifiers

/-- The parts of a header are read behind the name. -/
theorem serves_header (make : Header → σ) (hupdate : ∀ f h, update f (make h) = make (f h))
    (hbound : bound ≤ Json.levels) (h : Header) (hrest : Serves bound parts fields (make h) r) :
    Serves bound (headerParts h ++ parts) (headerFields update ++ fields)
      (make { name := h.name }) r := by
  obtain ⟨name, line, column, annotations, modifiers⟩ := h
  refine serves_update make hupdate line ?_ ?_ (serves_update make hupdate column ?_ ?_
    (serves_update make hupdate annotations ?_ ?_ (serves_update make hupdate modifiers ?_ ?_
      hrest)))
  · rintro _ rfl
    exact .word32 line
  · rintro rfl
    rfl
  · rintro _ rfl
    exact .word32 column
  · rintro rfl
    rfl
  · exact fun _ hvalue =>
      (Reads.ofSpellsList AnnotationUse.Spells.reads hvalue).mono hbound
  · rintro rfl
    rfl
  · rintro _ rfl
    exact reads_modifiers modifiers
  · rintro rfl
    rfl

end Headers

/-! ## Reading declarations -/

variable {bound : Nat} {members : List Node} {items : List Json}

/-- The fields of a class behind its header, its members read by `member`. -/
def bodyFields (member : Decoder Node) : List (Decoder.Field ClassDraft) :=
  [.of "typeParameters" .defaulted (.list .text)
      fun ns d => { d with shape := { d.shape with typeParameters := ns } },
    .of "properties" .defaulted (.list Parameter.decoder)
      fun ps d => { d with shape := { d.shape with properties := ps } },
    .of "superTypes" .defaulted (.list TypeRef.decoder)
      fun ts d => { d with shape := { d.shape with superTypes := ts } },
    .of "members" .defaulted (.list member) fun ms d => { d with members := ms }]

theorem membersToJson_eq_map : ∀ members : List Node, membersToJson members = members.map toJson
  | [] => rfl
  | node :: rest => by rw [membersToJson, membersToJson_eq_map rest, List.map_cons]

theorem serves_body {member : Decoder Node} (hbound : bound ≤ Json.levels) (h : Header)
    (c : ClassShape)
    (hmembers : List.Forall₂ (fun node value => Reads bound member node node.toJson value) members
      items) :
    Serves bound (bodyParts c members items) (bodyFields member)
      { header := h, shape := { kind := c.kind } } { header := h, shape := c, members } := by
  obtain ⟨kind, typeParameters, properties, superTypes⟩ := c
  refine .part typeParameters ?_ ?_ (.part properties ?_ ?_ (.part superTypes ?_ ?_
    (.part members ?_ ?_ .nil)))
  · rintro _ rfl
    exact .listSelf .text typeParameters
  · rintro rfl
    exact ⟨by decide, rfl⟩
  · exact fun _ hvalue => (Reads.ofSpellsList Parameter.Spells.reads hvalue).mono hbound
  · rintro rfl
    exact ⟨by decide, rfl⟩
  · exact fun _ hvalue => (Reads.ofSpellsList TypeRef.Spells.decoder hvalue).mono hbound
  · rintro rfl
    exact ⟨by decide, rfl⟩
  · rintro _ rfl
    show Reads bound _ members (.list (membersToJson members)) (.list items)
    rw [membersToJson_eq_map]
    exact .list hmembers
  · rintro rfl
    exact ⟨by decide, rfl⟩

/-- The fields of the map of a class, its members read by `member`. -/
def classFields (member : Decoder Node) : List (Decoder.Field ClassDraft) :=
  .of "name" .required .text (fun s d => { d with header := { d.header with name := s } }) ::
  .of "classKind" .defaulted (.variant ClassKind.names)
    (fun k d => { d with shape := { d.shape with kind := k } }) ::
  (headerFields (fun f d => { d with header := f d.header }) ++ bodyFields member)

theorem nodup_classFields (member : Decoder Node) :
    ((classFields member).map (·.key)).Nodup := by
  show ["name", "classKind", "line", "column", "annotations", "modifiers", "typeParameters",
    "properties", "superTypes", "members"].Nodup
  decide

/-- The parts of a class are read when its members are. -/
theorem serves_class {member : Decoder Node} (hbound : bound ≤ Json.levels) (h : Header)
    (c : ClassShape)
    (hmembers : List.Forall₂ (fun node value => Reads bound member node node.toJson value) members
      items) :
    Serves bound (classParts h c members items) (classFields member) {}
      { header := h, shape := c, members } := by
  refine .fixed h.name (.text h.name) (.part c.kind ?_ ?_ ?_)
  · rintro _ rfl
    exact .variant c.kind.lookup_name
  · intro hplain
    refine ⟨by decide, ?_⟩
    rw [show c.kind = .plain from hplain]
  · exact serves_header (fun header => ({ header, shape := { kind := c.kind } } : ClassDraft))
      (fun _ _ => rfl) hbound h (serves_body hbound h c hmembers)

/-- The fields of a function behind its header. -/
def signatureFields : List (Decoder.Field FunctionDraft) :=
  [.of "parameters" .defaulted (.list Parameter.decoder)
      fun ps d => { d with shape := { d.shape with parameters := ps } },
    .of "returnType" .defaulted (.optional TypeRef.decoder)
      fun t d => { d with shape := { d.shape with returnType := t } },
    .of "receiver" .defaulted (.optional TypeRef.decoder)
      fun t d => { d with shape := { d.shape with receiver := t } }]

theorem serves_signature (hbound : bound ≤ Json.levels) (h : Header) (f : FunctionShape) :
    Serves bound (signatureParts f) signatureFields { header := h }
      { header := h, shape := f } := by
  obtain ⟨parameters, returnType, receiver⟩ := f
  have htype {o : Option TypeRef} {value : Json} (hvalue : SpellsOption TypeRef.Spells o value) :
      Reads bound (Decoder.optional TypeRef.decoder) o (Json.orNull TypeRef.toJson o) value :=
    (Reads.ofSpellsOption TypeRef.Spells.decoder TypeRef.Spells.ne_null hvalue).mono hbound
  refine .part parameters ?_ ?_ (.part returnType (fun _ => htype) ?_
    (.part receiver (fun _ => htype) ?_ .nil))
  · exact fun _ hvalue => (Reads.ofSpellsList Parameter.Spells.reads hvalue).mono hbound
  · rintro rfl
    exact ⟨by decide, rfl⟩
  · rintro rfl
    exact ⟨by decide, rfl⟩
  · rintro rfl
    exact ⟨by decide, rfl⟩

/-- The fields of the map of a function. -/
def functionFields : List (Decoder.Field FunctionDraft) :=
  .of "name" .required .text (fun s d => { d with header := { d.header with name := s } }) ::
  (headerFields (fun f d => { d with header := f d.header }) ++ signatureFields)

theorem nodup_functionFields : (functionFields.map (·.key)).Nodup := by
  show ["name", "line", "column", "annotations", "modifiers", "parameters", "returnType",
    "receiver"].Nodup
  decide

/-- The parts of a function are read. -/
theorem serves_function (hbound : bound ≤ Json.levels) (h : Header) (f : FunctionShape) :
    Serves bound (functionParts h f) functionFields {} { header := h, shape := f } := by
  refine .fixed h.name (.text h.name) ?_
  exact serves_header (fun header => ({ header } : FunctionDraft)) (fun _ _ => rfl) hbound h
    (serves_signature hbound h f)

/-! ## Kinds -/

variable {mode : Json.Mode} {room : Nat} {kind : NodeKind} {entries : List (String × Json)}

theorem splitKind_of_whole (hkeys : ∀ entry ∈ entries, entry.1 ≠ "kind")
    (hwhole : Json.wholeEntries room entries = true) :
    splitKind mode room (some kind) entries = .ok (kind, entries) := by
  induction entries with
  | nil => rfl
  | cons entry rest ih =>
    obtain ⟨key, value⟩ := entry
    rw [Json.wholeEntries, Bool.and_eq_true] at hwhole
    have hkey : key ≠ "kind" := hkeys _ List.mem_cons_self
    have hrest := ih (fun e he => hkeys e (List.mem_cons_of_mem _ he)) hwhole.2
    rw [splitKind, if_neg hkey, if_pos hwhole.1, hrest]
    · rfl
    · exact Json.ne_unreadKey_of_whole hwhole.1

/-- The kind is taken off the other entries of a declaration. -/
theorem splitKind_kind {name : String} (hname : NodeKind.names.lookup name = some kind)
    (hkeys : ∀ entry ∈ entries, entry.1 ≠ "kind")
    (hwhole : Json.wholeEntries room entries = true) :
    splitKind mode room none (("kind", .text name) :: entries) = .ok (kind, entries) := by
  have hidentifier : Decoder.identifier NodeKind.names mode room (.text name) = .ok kind := by
    rw [Decoder.identifier, Decoder.named, hname]
  rw [splitKind, if_pos rfl]
  · simp only [hidentifier, Option.isSome_none, Bool.false_eq_true, if_false, bind, Except.bind]
    exact splitKind_of_whole hkeys hwhole
  · simp

/-- Decodes a declaration of a kind, the classes inside it up to a depth. -/
def kindDecoder (depth : Nat) : NodeKind → Decoder Node
  | .class_ => classDecoder (decoderWithin depth)
  | .function => functionDecoder

theorem decoderWithin_map (depth inside : Nat) (mode : Json.Mode)
    (entries : List (String × Json)) :
    decoderWithin (depth + 1) mode (inside + 1) (.map entries) =
      (do
        let (kind, others) ← splitKind mode inside none entries
        kindDecoder depth kind .held (inside + 1) (.map others)) := by
  rw [decoderWithin]
  refine bind_congr fun pair => ?_
  obtain ⟨kind, others⟩ := pair
  cases kind <;> rfl

/-- A declaration is read when the map of its parts without the kind is. -/
theorem reads_kind {depth : Nat} {name : String} {node : Node} {parts : List Part}
    (kind : NodeKind) (hname : NodeKind.names.lookup name = some kind)
    (hkeys : "kind" ∉ parts.map (·.key)) (hentries : Entries parts entries)
    (h : Reads (depth + 1) (kindDecoder depth kind) node (.map (parts.map Part.entry))
      (.map entries)) :
    Reads (depth + 1) (decoderWithin (depth + 1)) node
      (.map (("kind", .text name) :: parts.map Part.entry))
      (.map (("kind", .text name) :: entries)) where
  writable := ⟨trivial, h.writable⟩
  whole := by
    intro room hwhole
    obtain ⟨inside, rfl, hinside⟩ := Json.pos_of_whole_map hwhole
    have hparts : Json.whole (inside + 1) (.map (parts.map Part.entry)) = true := hinside
    exact h.whole hparts
  decoded := by
    intro mode room hroom hwhole
    obtain ⟨inside, rfl, hinside⟩ := Json.pos_of_whole_map hwhole
    have hparts : Json.whole (inside + 1) (.map (parts.map Part.entry)) = true := hinside
    have hothers : ∀ entry ∈ entries, entry.1 ≠ "kind" := by
      intro entry hentry heq
      exact hkeys (heq ▸ hentries.key_mem hentry)
    have hsplit : splitKind mode inside none (("kind", .text name) :: entries) =
        .ok (kind, entries) := splitKind_kind hname hothers (h.whole hparts)
    rw [decoderWithin_map, hsplit]
    exact h.decoded .held hroom hparts

theorem kind_notMem_classParts (h : Header) (c : ClassShape) (members : List Node)
    (items : List Json) : "kind" ∉ (classParts h c members items).map (·.key) := by
  show "kind" ∉ ["name", "classKind", "line", "column", "annotations", "modifiers",
    "typeParameters", "properties", "superTypes", "members"]
  decide

theorem kind_notMem_functionParts (h : Header) (f : FunctionShape) :
    "kind" ∉ (functionParts h f).map (·.key) := by
  show "kind" ∉ ["name", "line", "column", "annotations", "modifiers", "parameters", "returnType",
    "receiver"]
  decide

theorem reads_class {depth : Nat} (hdepth : depth ≤ Json.levels) {h : Header} {c : ClassShape}
    (hmembers : List.Forall₂
      (fun node value => Reads depth (decoderWithin depth) node node.toJson value) members items)
    (hentries : Entries (classParts h c members items) entries) :
    Reads (depth + 1) (decoderWithin (depth + 1)) (.ofClass h c members)
      (ofClass h c members).toJson (.map (("kind", .text "class") :: entries)) := by
  rw [toJson_ofClass h c members items]
  refine reads_kind .class_ rfl (kind_notMem_classParts h c members items) hentries ?_
  exact ((serves_class hdepth h c hmembers).reads (nodup_classFields _) hentries "ClassNode").map
    fun d : ClassDraft => ofClass d.header d.shape d.members

theorem reads_function {depth : Nat} (hdepth : depth ≤ Json.levels) {h : Header}
    {f : FunctionShape} (hentries : Entries (functionParts h f) entries) :
    Reads (depth + 1) (decoderWithin (depth + 1)) (.ofFunction h f)
      (ofFunction h f).toJson (.map (("kind", .text "function") :: entries)) := by
  rw [toJson_ofFunction]
  refine reads_kind .function rfl (kind_notMem_functionParts h f) hentries ?_
  exact ((serves_function hdepth h f).reads nodup_functionFields hentries "FunctionNode").map
    fun d : FunctionDraft => ofFunction d.header d.shape

mutual
/-- A value that stands for a declaration is read as the declaration. -/
theorem Spells.reads : ∀ {node : Node} {value : Json} {depth : Nat}, depth ≤ Json.levels →
    Spells node value → Reads depth (decoderWithin depth) node node.toJson value
  | .ofClass h c members, _, 0, hdepth, .ofClass hmembers hentries => by
    have hreads := reads_class hdepth (hmembers.reads hdepth) hentries
    rw [toJson_ofClass h c members []] at hreads ⊢
    exact hreads.zero
  | .ofClass _ _ _, _, depth + 1, hdepth, .ofClass hmembers hentries =>
    reads_class (Nat.le_of_succ_le hdepth) (hmembers.reads (Nat.le_of_succ_le hdepth)) hentries
  | .ofFunction h f, _, 0, hdepth, .ofFunction hentries => by
    have hreads := reads_function hdepth hentries
    rw [toJson_ofFunction] at hreads ⊢
    exact hreads.zero
  | .ofFunction _ _, _, depth + 1, hdepth, .ofFunction hentries =>
    reads_function (Nat.le_of_succ_le hdepth) hentries
theorem SpellsMembers.reads : ∀ {members : List Node} {items : List Json} {depth : Nat},
    depth ≤ Json.levels → SpellsMembers members items →
    List.Forall₂ (fun node value => Reads depth (decoderWithin depth) node node.toJson value)
      members items
  | _, _, _, _, .nil => .nil
  | _, _, _, hdepth, .cons hnode hrest => .cons (hnode.reads hdepth) (hrest.reads hdepth)
end

theorem Spells.decoder {node : Node} (h : node.Spells value) :
    Reads Json.levels decoder node node.toJson value :=
  h.reads le_rfl

end Node

/-! ## Files -/

namespace SourceFile

/-- The parts of a source file. -/
def parts (file : SourceFile) : List Part :=
  [{ key := "path", written := .text file.path },
    { key := "package", written := .text file.package, MayLack := file.package = "" },
    { key := "declarations"
      written := .list (Node.membersToJson file.declarations)
      Spelled := SpellsList Node.Spells file.declarations
      MayLack := file.declarations = [] }]

/-- A value stands for a source file. -/
def Spells (file : SourceFile) (value : Json) : Prop := SpellsRecord file.parts value

theorem spells_toJson (file : SourceFile) : file.Spells file.toJson := by
  show SpellsRecord file.parts (.map (file.parts.map Part.entry))
  apply Json.spellsRecord_self
  have hdeclarations := Json.spellsList_self Node.spells_toJson file.declarations
  rw [← Node.membersToJson_eq_map] at hdeclarations
  simp [parts, hdeclarations]

theorem Spells.reads {file : SourceFile} (h : file.Spells value) :
    Reads Json.levels decoder file file.toJson value := by
  obtain ⟨path, package, declarations⟩ := file
  refine Serves.readsRecord
    (.fixed path (.text path) (.part package ?_ ?_ (.part declarations ?_ ?_ .nil)))
    (by simp [Decoder.Field.of]) h "SourceFile"
  · rintro _ rfl
    exact .text package
  · rintro rfl
    exact ⟨by decide, rfl⟩
  · intro value hvalue
    show Reads Json.levels _ declarations (.list (Node.membersToJson declarations)) value
    rw [Node.membersToJson_eq_map]
    exact .ofSpellsList Node.Spells.decoder hvalue
  · rintro rfl
    exact ⟨by decide, rfl⟩

/-- The one part of a document of source files. -/
def documentParts (files : List SourceFile) : List Part :=
  [{ key := "files"
     written := .list (files.map toJson)
     Spelled := SpellsList Spells files
     MayLack := files = [] }]

/-- A value stands for a document of source files. -/
def DocumentSpells (files : List SourceFile) (value : Json) : Prop :=
  SpellsRecord (documentParts files) value

theorem documentSpells_toJson (files : List SourceFile) :
    DocumentSpells files (documentToJson files) := by
  show SpellsRecord (documentParts files) (.map ((documentParts files).map Part.entry))
  apply Json.spellsRecord_self
  have hfiles := Json.spellsList_self spells_toJson files
  simpa [documentParts] using hfiles

theorem DocumentSpells.reads {files : List SourceFile} (h : DocumentSpells files value) :
    Reads Json.levels documentDecoder files (documentToJson files) value := by
  refine Serves.readsRecord (.part files ?_ ?_ .nil) (by simp [Decoder.Field.of]) h "SnapshotFile"
  · exact fun _ hvalue => .ofSpellsList Spells.reads hvalue
  · rintro rfl
    exact ⟨by decide, rfl⟩

end SourceFile

namespace Snapshot

/-! ## The law of documents -/

/-- Files whose document nests no deeper than documents may make one snapshot, or one error, however
their document is spelled: in full, with types given by their texts, or with usual values left
out. -/
theorem a_document_makes_the_snapshot_of_its_files {files : List SourceFile}
    (hdepth : (SourceFile.documentToJson files).depth ≤ Json.levels) :
    SourceFile.DocumentSpells files (SourceFile.documentToJson files) ∧
    ∀ value, SourceFile.DocumentSpells files value →
      Json.read value.pretty = { value, ended := true } ∧
      ofDocument { value, ended := true } = (ofFiles files).mapError Error.unnamed := by
  have hself := SourceFile.documentSpells_toJson files
  have hwhole : (SourceFile.documentToJson files).whole Json.levels = true :=
    (Json.whole_iff _ hself.reads.writable).mpr hdepth
  refine ⟨hself, fun value hvalue => ⟨Json.read_pretty hvalue.reads.writable, ?_⟩⟩
  have hdecoded := hvalue.reads.decoded .streamed le_rfl hwhole
  rw [ofDocument, Decoder.document, hdecoded]
  rfl

/-- A type with an argument that may only go in. -/
def memoType : TypeRef :=
  { name := "app.Memo", arguments := [⟨.inward, some { name := "kotlin.Int" }⟩], nullable := true }

/-- A file with one function, which takes a memo. -/
def memoFile : SourceFile where
  path := "app/Memo.kt"
  package := "app"
  declarations := [Node.functionNamed "show" |>.withParameter "memo" memoType]

/-- The file in short: the type is given by its text, and all usual values are left out. -/
def shortMemo : Json :=
  let parameter : Json :=
    .map [("name", .text "memo"), ("type", .text "app.Memo<in kotlin.Int>?")]
  let function : Json :=
    .map [("kind", .text "function"), ("name", .text "show"), ("parameters", .list [parameter])]
  .map [("files", .list [.map [("path", .text "app/Memo.kt"), ("package", .text "app"),
    ("declarations", .list [function])]])]

theorem spells_shortMemo : SourceFile.DocumentSpells [memoFile] shortMemo := by
  have htype : memoType.Spells (.text "app.Memo<in kotlin.Int>?") := by
    have htext : "app.Memo<in kotlin.Int>?" = memoType.render := by decide +kernel
    rw [htext]
    exact .text (by decide +kernel)
  have hparameter : Parameter.Spells { name := "memo", type := memoType } _ :=
    ⟨_, .given rfl (.given htype .nil), rfl⟩
  have hfunction : Node.Spells (Node.functionNamed "show" |>.withParameter "memo" memoType) _ :=
    .ofFunction (.given rfl (.leftOut rfl (.leftOut rfl (.leftOut rfl (.leftOut rfl
      (.given ⟨_, .cons hparameter .nil, rfl⟩ (.leftOut rfl (.leftOut rfl .nil))))))))
  have hfile : memoFile.Spells _ :=
    ⟨_, .given rfl (.given rfl (.given ⟨_, .cons hfunction .nil, rfl⟩ .nil)), rfl⟩
  exact ⟨_, .given ⟨_, .cons hfile .nil, rfl⟩ .nil, rfl⟩

/-- The file in short makes the snapshot that the file makes. -/
theorem the_memo_is_the_same_in_short :
    (SourceFile.documentToJson [memoFile]).depth ≤ Json.levels ∧
    shortMemo.depth < (SourceFile.documentToJson [memoFile]).depth ∧
    ∃ s, ofFiles [memoFile] = .ok s ∧
      ofDocument (Json.read (SourceFile.documentToJson [memoFile]).pretty) = .ok s ∧
      ofDocument (Json.read shortMemo.pretty) = .ok s := by
  have hdepth : (SourceFile.documentToJson [memoFile]).depth ≤ Json.levels := by decide +kernel
  obtain ⟨hself, hlaw⟩ := a_document_makes_the_snapshot_of_its_files hdepth
  obtain ⟨hread, hsnapshot⟩ := hlaw _ hself
  obtain ⟨hread', hsnapshot'⟩ := hlaw _ spells_shortMemo
  obtain ⟨s, hs, -⟩ := exists_ofFiles_singleton memoFile (fun _ => True) (by decide +kernel)
  rw [hs] at hsnapshot hsnapshot'
  refine ⟨hdepth, by decide +kernel, s, hs, ?_, ?_⟩
  · rw [hread]
    exact hsnapshot
  · rw [hread']
    exact hsnapshot'

end Snapshot

end BoundaryGen
