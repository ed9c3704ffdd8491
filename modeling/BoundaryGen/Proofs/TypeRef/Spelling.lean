-- The values that stand for a type in a document: the map of its parts, where the usual variance of
-- an argument may be left out, or the text of the type. Either is read as the type, at any depth of
-- types inside types.
import Mathlib
import BoundaryGen.Proofs.Json.Spelling
import BoundaryGen.Proofs.TypeRef.Inverse
import BoundaryGen.TypeRef.Json

namespace BoundaryGen

open Json (Decoder Entries Part Serves)

namespace TypeRef

/-! ## Spellings -/

def variancePart (variance : Variance) : Part where
  key := "variance"
  written := .text variance.name
  MayLack := variance = .invariant

/-- The type of an argument, spelled as some value. -/
def typePart (type : TypeRef) (value : Json) : Part where
  key := "ty"
  written := type.toJson
  Spelled := (· = value)

/-- The arguments of a type, spelled as some items. -/
def argumentsParts (arguments : List TypeArgument) (items : List Json) : List Part :=
  match arguments with
  | [] => []
  | arguments => [{
      key := "arguments"
      written := .list (argumentsToJson arguments)
      Spelled := (· = .list items) }]

def nullableParts (nullable : Bool) : List Part :=
  if nullable then [{ key := "nullable", written := .bool true }] else []

/-- The parts of a type whose arguments are spelled as some items. -/
def parts (t : TypeRef) (items : List Json) : List Part :=
  { key := "name", written := .text t.name } :: argumentsParts t.arguments items
    ++ nullableParts t.nullable

mutual
/-- A value stands for a type: it is the text of a well formed type, or a map of its parts. -/
inductive Spells : TypeRef → Json → Prop
  | text {t : TypeRef} : t.wellFormed = true → Spells t (.text t.render)
  | map {name : String} {arguments : List TypeArgument} {nullable : Bool} {items : List Json}
      {entries : List (String × Json)} :
    SpellsArguments arguments items → Entries (parts ⟨name, arguments, nullable⟩ items) entries →
    Spells ⟨name, arguments, nullable⟩ (.map entries)
/-- Items stand for the arguments of a type. -/
inductive SpellsArguments : List TypeArgument → List Json → Prop
  | nil : SpellsArguments [] []
  | untyped {variance : Variance} {entries : List (String × Json)} {rest : List TypeArgument}
      {items : List Json} :
    Entries [variancePart variance] entries → SpellsArguments rest items →
    SpellsArguments (⟨variance, none⟩ :: rest) (.map entries :: items)
  | typed {variance : Variance} {t : TypeRef} {value : Json} {entries : List (String × Json)}
      {rest : List TypeArgument} {items : List Json} :
    Spells t value → Entries [variancePart variance, typePart t value] entries →
    SpellsArguments rest items →
    SpellsArguments (⟨variance, some t⟩ :: rest) (.map entries :: items)
end

theorem toJson_eq (t : TypeRef) (items : List Json) :
    t.toJson = .map ((t.parts items).map Part.entry) := by
  obtain ⟨name, arguments, nullable⟩ := t
  cases arguments <;> cases nullable <;> rfl

mutual
/-- A type in full stands for itself. -/
theorem spells_toJson : ∀ t : TypeRef, Spells t t.toJson
  | ⟨name, arguments, nullable⟩ => by
    rw [toJson_eq _ (argumentsToJson arguments)]
    refine .map (spellsArguments_toJson arguments) (Json.entries_self ?_)
    cases arguments <;> cases nullable <;>
      simp [parts, argumentsParts, nullableParts]
theorem spellsArguments_toJson : ∀ arguments : List TypeArgument,
    SpellsArguments arguments (argumentsToJson arguments)
  | [] => .nil
  | ⟨_, none⟩ :: rest =>
    .untyped (.given rfl .nil) (spellsArguments_toJson rest)
  | ⟨_, some t⟩ :: rest =>
    .typed (spells_toJson t) (.given rfl (.given rfl .nil)) (spellsArguments_toJson rest)
end

/-! ## Reading -/

variable {t : TypeRef} {arguments : List TypeArgument} {items : List Json} {value : Json}
  {depth : Nat}

/-- An argument as a map. -/
def argumentToJson : TypeArgument → Json
  | ⟨variance, none⟩ => .map [("variance", .text variance.name)]
  | ⟨variance, some type⟩ => .map [("variance", .text variance.name), ("ty", type.toJson)]

theorem argumentsToJson_eq_map : ∀ arguments : List TypeArgument,
    argumentsToJson arguments = arguments.map argumentToJson
  | [] => rfl
  | ⟨_, none⟩ :: rest => by rw [argumentsToJson, argumentsToJson_eq_map rest]; rfl
  | ⟨_, some _⟩ :: rest => by rw [argumentsToJson, argumentsToJson_eq_map rest]; rfl

theorem lookup_variance (variance : Variance) :
    Variance.names.lookup variance.name = some variance := by
  cases variance <;> rfl

/-- The values that stand for a type are no null. -/
theorem Spells.ne_null (h : Spells t value) : value ≠ .null := by
  cases h <;> exact Json.noConfusion

/-- The fields of the map of an argument, its type read by `decode`. -/
def argumentFields (decode : Decoder TypeRef) : List (Decoder.Field TypeArgument) :=
  [.of "variance" .defaulted (.variant Variance.names) fun v a => { a with variance := v },
    .of "ty" .defaulted (.optional decode) fun t a => { a with type := t }]

/-- The variance of an argument is read, also when it is left out. -/
theorem serves_variance {decode : Decoder TypeRef} {parts : List Part} {variance : Variance}
    {a : TypeArgument} (h : Serves depth parts (argumentFields decode).tail { variance } a) :
    Serves depth (variancePart variance :: parts) (argumentFields decode) {} a := by
  refine .part variance ?_ ?_ h
  · rintro _ rfl
    exact .variant (lookup_variance variance)
  · rintro rfl
    exact ⟨by decide, rfl⟩

theorem serves_untyped (decode : Decoder TypeRef) (variance : Variance) :
    Serves depth [variancePart variance] (argumentFields decode) {} ⟨variance, none⟩ :=
  serves_variance (.none (by decide) .nil)

theorem serves_typed {decode : Decoder TypeRef} (variance : Variance)
    (h : Json.Reads depth decode t t.toJson value) (hne : value ≠ .null) :
    Serves depth [variancePart variance, typePart t value] (argumentFields decode) {}
      ⟨variance, some t⟩ := by
  refine serves_variance (.part (some t) ?_ nofun .nil)
  rintro _ rfl
  exact h.present hne

theorem nodup_argumentFields (decode : Decoder TypeRef) :
    ((argumentFields decode).map (·.key)).Nodup := by
  show ["variance", "ty"].Nodup
  decide

/-- A map that spells the parts of an argument is read as the argument. -/
theorem reads_argument {decode : Decoder TypeRef} {a : TypeArgument} {parts : List Part}
    {entries : List (String × Json)} (h : Serves depth parts (argumentFields decode) {} a)
    (hjson : argumentToJson a = .map (parts.map Part.entry)) (hentries : Entries parts entries) :
    Json.Reads depth (argumentDecoder decode) a (argumentToJson a) (.map entries) := by
  rw [hjson]
  exact (h.reads (nodup_argumentFields decode) hentries "TypeArgument").mono (Nat.le_succ depth)

/-- The fields of the map of a type, its arguments read by `decode`. -/
def fields (decode : Decoder TypeArgument) : List (Decoder.Field TypeRef) :=
  [.of "name" .required .text fun s t => { t with name := s },
    .of "arguments" .defaulted (.list decode) fun as t => { t with arguments := as },
    .of "nullable" .defaulted .flag fun b t => { t with nullable := b }]

theorem nodup_fields (decode : Decoder TypeArgument) : ((fields decode).map (·.key)).Nodup := by
  show ["name", "arguments", "nullable"].Nodup
  decide

theorem serves_nullable {name : String} (nullable : Bool) :
    Serves depth (nullableParts nullable)
      [.of "nullable" .defaulted .flag fun b t => { t with nullable := b }]
      ({ name, arguments } : TypeRef) { name, arguments, nullable } := by
  cases nullable with
  | false => exact .none (by decide) .nil
  | true => exact .fixed true (.flag true) .nil

/-- The parts of a type are read, its arguments where there are any. -/
theorem serves_parts {decode : Decoder TypeArgument}
    (h : List.Forall₂ (fun a value => Json.Reads depth decode a (argumentToJson a) value)
      t.arguments items) :
    Serves depth (t.parts items) (fields decode) { name := "" } t := by
  obtain ⟨name, arguments, nullable⟩ := t
  refine .fixed name (.text name) ?_
  cases arguments with
  | nil => exact .none (by decide) (serves_nullable nullable)
  | cons a as =>
    refine .part (a :: as) ?_ nofun (serves_nullable nullable)
    rintro _ rfl
    show Json.Reads depth _ _ (.list (argumentsToJson (a :: as))) _
    rw [argumentsToJson_eq_map]
    exact .list h

/-- A map that spells the parts of a type is read as the type when its arguments are. -/
theorem reads_map {entries : List (String × Json)}
    (hitems : List.Forall₂ (fun a value => Json.Reads depth
      (argumentDecoder (heldDecoder depth)) a (argumentToJson a) value) t.arguments items)
    (hentries : Entries (t.parts items) entries) :
    Json.Reads (depth + 1) (heldDecoder (depth + 1)) t t.toJson (.map entries) := by
  have hrecord := (serves_parts hitems).reads (nodup_fields _) hentries "TypeRefRepr"
  rw [t.toJson_eq items]
  refine ⟨hrecord.writable, hrecord.whole, fun mode room hroom hwhole => ?_⟩
  have hdecoded := hrecord.decoded .tried hroom hwhole
  unfold fields at hdecoded
  rw [heldDecoder, hdecoded]

mutual
/-- A value that stands for a type is read as the type. -/
theorem Spells.reads : ∀ {t : TypeRef} {value : Json} (depth : Nat), Spells t value →
    Json.Reads depth (heldDecoder depth) t t.toJson value
  | t, _, depth, .text h => by
    refine ⟨trivial, fun _ => rfl, fun mode room hroom hwhole => ?_⟩
    rw [t.toJson_eq []] at hwhole
    obtain ⟨inside, rfl, -⟩ := Json.pos_of_whole_map hwhole
    cases depth with
    | zero => cases hroom
    | succ depth => rw [heldDecoder, parse_render h]
  | ⟨name, arguments, nullable⟩, _, 0, .map hitems hentries => by
    have hreads := reads_map (t := ⟨name, arguments, nullable⟩) (hitems.reads 0) hentries
    rw [toJson_eq _ []] at hreads ⊢
    exact hreads.zero
  | ⟨name, arguments, nullable⟩, _, depth + 1, .map hitems hentries =>
    reads_map (t := ⟨name, arguments, nullable⟩) (hitems.reads depth) hentries
theorem SpellsArguments.reads : ∀ {arguments : List TypeArgument} {items : List Json} (depth : Nat),
    SpellsArguments arguments items →
    List.Forall₂ (fun a value => Json.Reads depth (argumentDecoder (heldDecoder depth)) a
      (argumentToJson a) value) arguments items
  | _, _, _, .nil => .nil
  | ⟨variance, none⟩ :: _, _, depth, .untyped hentries hrest =>
    .cons (reads_argument (serves_untyped (heldDecoder depth) variance) rfl hentries)
      (hrest.reads depth)
  | ⟨variance, some _⟩ :: _, _, depth, .typed htype hentries hrest =>
    .cons (reads_argument (serves_typed variance (htype.reads depth) htype.ne_null) rfl hentries)
      (hrest.reads depth)
end

/-- A value that stands for a type is read as the type, as deep as documents nest. -/
theorem Spells.decoder (h : Spells t value) : Json.Reads Json.levels decoder t t.toJson value :=
  (h.reads Json.levels).wholly

end TypeRef

end BoundaryGen
