-- Manifests survive writing and reading: every entry comes back under its key,
-- in its place. So no two manifests have one text.
import Mathlib
import BoundaryGen.Manifest.Basic
import BoundaryGen.Proofs.Json.RoundTrip

namespace BoundaryGen

open Json (Decoder)

/-! ## Maps -/

namespace OrderedMap

variable {α : Type} {encode : α → Json} {decode : Decoder α} {mode : Json.Mode} {room : Nat}

theorem pairs_encoded (hkey : ∀ a, encode a ≠ .unreadKey)
    (hdecode : ∀ a, decode mode room (encode a) = .ok a) (entries : List (String × α)) :
    Decoder.pairs (decode mode room) (entries.map fun (key, value) => (key, encode value)) =
      .ok entries := by
  induction entries with
  | nil => rfl
  | cons e rest ih =>
    obtain ⟨key, value⟩ := e
    rw [List.map_cons, Decoder.pairs, hdecode, ih]
    · rfl
    · exact hkey value

/-- A map is decoded from its JSON when its values are. -/
theorem decode_toJson (hkey : ∀ a, encode a ≠ .unreadKey)
    (hdecode : ∀ a, decode mode room (encode a) = .ok a) (m : OrderedMap String α) :
    Decoder.orderedMap decode mode (room + 1) (m.toJson encode) = .ok m := by
  rw [OrderedMap.toJson, Decoder.orderedMap, pairs_encoded hkey hdecode]
  exact congrArg Except.ok (ofList_entries m)

theorem writable_toJson (h : ∀ a, (encode a).Writable) (m : OrderedMap String α) :
    (m.toJson encode).Writable := by
  unfold OrderedMap.toJson Json.Writable
  induction m.entries with
  | nil => trivial
  | cons e rest ih => exact ⟨h e.2, ih⟩

end OrderedMap

/-! ## Models -/

theorem decode_parameters (mode : Json.Mode) (room : Nat) (m : ParameterMap) :
    Decoder.orderedMap Decoder.text mode (room + 1) (m.toJson .text) = .ok m :=
  OrderedMap.decode_toJson (by simp) (fun _ => rfl) m

theorem decode_intents (mode : Json.Mode) (room : Nat) (m : OrderedMap String ParameterMap) :
    Decoder.orderedMap (Decoder.orderedMap Decoder.text) mode (room + 2)
      (m.toJson (OrderedMap.toJson .text)) = .ok m :=
  OrderedMap.decode_toJson (by simp [OrderedMap.toJson]) (decode_parameters mode room) m

theorem ModelData.decode_toJson (mode : Json.Mode) (room : Nat) (d : ModelData) :
    ModelData.decoder mode (room + 3) d.toJson = .ok d := by
  have hvalues := decode_parameters mode (room + 1) d.values
  have hinit := decode_parameters mode (room + 1) d.init
  have hintents := decode_intents mode room d.intents
  obtain ⟨values, hv⟩ : ∃ es, d.values.toJson .text = .map es := ⟨_, rfl⟩
  obtain ⟨init, hi⟩ : ∃ es, d.init.toJson .text = .map es := ⟨_, rfl⟩
  obtain ⟨intents, hn⟩ : ∃ es, d.intents.toJson (OrderedMap.toJson .text) = .map es := ⟨_, rfl⟩
  rw [hv] at hvalues
  rw [hi] at hinit
  rw [hn] at hintents
  unfold ModelData.decoder ModelData.toJson
  rw [hv, hi, hn]
  simp only [Decoder.record, Decoder.fillEntries, Bool.false_eq_true, ↓reduceIte,
    Decoder.Field.of, Decoder.flag, decide_true, List.find?_cons_of_pos, List.not_mem_nil, hvalues,
    Except.map_ok, String.reduceEq, decide_false, not_false_eq_true, List.find?_cons_of_neg,
    List.mem_cons, or_self, hinit, hintents, Decoder.missing?, or_false, not_or, Bool.decide_and,
    decide_not, Bool.not_false, Bool.not_true, Bool.and_false, Bool.and_true, Bool.and_self,
    List.find?_nil]
  rfl

theorem ModelData.writable_toJson (d : ModelData) : d.toJson.Writable := by
  have htexts (m : ParameterMap) : (m.toJson .text).Writable :=
    OrderedMap.writable_toJson (fun s => by trivial) m
  exact ⟨htexts d.values, htexts d.init, trivial, OrderedMap.writable_toJson htexts d.intents,
    trivial⟩

/-! ## Documents -/

theorem Manifest.decode_toJson (mode : Json.Mode) (room : Nat) (m : Manifest) :
    Manifest.decoder mode (room + 4) m.toJson = .ok m := by
  unfold Manifest.decoder Manifest.toJson
  rw [OrderedMap.decode_toJson (by simp [ModelData.toJson]) (ModelData.decode_toJson mode room)]
  rfl

theorem Manifest.writable_toJson (m : Manifest) : m.toJson.Writable :=
  OrderedMap.writable_toJson ModelData.writable_toJson m.models

/-- The text of a manifest is read as that manifest. -/
theorem Manifest.parse_text_eq (m : Manifest) : Manifest.parse m.text = .ok m := by
  unfold Manifest.parse Manifest.text Decoder.ofText Decoder.document
  rw [Json.read_pretty m.writable_toJson]
  dsimp only
  rw [show Json.levels = 123 + 4 from rfl, m.decode_toJson]
  rfl

/-- The text of a manifest is one document and nothing more, and it is read as that manifest, with
every map in its order. So manifests that differ, if only in an order, have different texts. -/
theorem manifests_survive_their_texts :
    (∀ m : Manifest, Json.read m.text = { value := m.toJson, ended := true } ∧
      Manifest.parse m.text = .ok m) ∧
    ∀ m m' : Manifest, m ≠ m' → m.text ≠ m'.text := by
  constructor
  · intro m
    exact ⟨Json.read_pretty m.writable_toJson, m.parse_text_eq⟩
  · intro m m' hne htext
    apply hne
    have hparse := m.parse_text_eq
    rw [htext, m'.parse_text_eq, Except.ok.injEq] at hparse
    exact hparse.symm

/-- The order of two intents is seen in the text. -/
example :
    let intents (names : List String) : Manifest :=
      { models := .ofList [("app.Door",
        { (default : ModelData) with intents := .ofList (names.map (·, .empty)) })] }
    (intents ["open", "shut"]).text ≠ (intents ["shut", "open"]).text := by
  decide +kernel

end BoundaryGen
