-- Values that stand for another one: parts of a record may be spelled in several ways, and a part
-- that holds its usual value may be left out. A value that stands for one that is written in full
-- nests no deeper, and it is decoded alike, whatever is left out of it.
import Mathlib
import BoundaryGen.Json.Decode
import BoundaryGen.Proofs.Json.RoundTrip

namespace BoundaryGen.Json

/-! ## Depth -/

mutual
/-- How many lists and maps stand inside each other. -/
def depth : Json → Nat
  | .list items => depthAll items + 1
  | .map entries => depthEntries entries + 1
  | _ => 0
def depthAll : List Json → Nat
  | [] => 0
  | item :: rest => max (depth item) (depthAll rest)
def depthEntries : List (String × Json) → Nat
  | [] => 0
  | (_, value) :: rest => max (depth value) (depthEntries rest)
end

mutual
/-- A value that is written is whole where its depth has room. -/
theorem whole_iff : ∀ (value : Json) {room : Nat}, Writable value →
    (value.whole room = true ↔ value.depth ≤ room)
  | .null, _, _ | .bool _, _, _ | .int _, _, _ | .text _, _, _ => by simp [whole, depth]
  | .list items, 0, _ => by simp [whole, depth]
  | .list items, room + 1, h => by
    rw [whole, depth, Nat.add_le_add_iff_right]
    exact wholeAll_iff items h
  | .map entries, 0, _ => by simp [whole, depth]
  | .map entries, room + 1, h => by
    rw [whole, depth, Nat.add_le_add_iff_right]
    exact wholeEntries_iff entries h
theorem wholeAll_iff : ∀ (items : List Json) {room : Nat}, AllWritable items →
    (wholeAll room items = true ↔ depthAll items ≤ room)
  | [], _, _ => by simp [wholeAll, depthAll]
  | item :: rest, _, h => by
    rw [wholeAll, depthAll, Bool.and_eq_true, whole_iff item h.1, wholeAll_iff rest h.2,
      Nat.max_le]
theorem wholeEntries_iff : ∀ (entries : List (String × Json)) {room : Nat},
    EntriesWritable entries → (wholeEntries room entries = true ↔ depthEntries entries ≤ room)
  | [], _, _ => by simp [wholeEntries, depthEntries]
  | (_, value) :: rest, _, h => by
    rw [wholeEntries, depthEntries, Bool.and_eq_true, whole_iff value h.1,
      wholeEntries_iff rest h.2, Nat.max_le]
end

theorem pos_of_whole_map {room : Nat} {entries : List (String × Json)}
    (h : whole room (.map entries) = true) :
    ∃ inside, room = inside + 1 ∧ wholeEntries inside entries = true := by
  cases room with
  | zero => cases h
  | succ inside => exact ⟨inside, rfl, h⟩

theorem pos_of_whole_list {room : Nat} {items : List Json}
    (h : whole room (.list items) = true) :
    ∃ inside, room = inside + 1 ∧ wholeAll inside items = true := by
  cases room with
  | zero => cases h
  | succ inside => exact ⟨inside, rfl, h⟩

/-! ## Spelled records -/

/-- A part of a record: its key, its value in full, the values that may stand there instead, and
whether the part may be left out. -/
structure Part where
  key : String
  written : Json
  Spelled : Json → Prop := (· = written)
  MayLack : Prop := False

/-- A part in full. -/
def Part.entry (p : Part) : String × Json := (p.key, p.written)

/-- Entries that spell the parts of a record in their order. -/
inductive Entries : List Part → List (String × Json) → Prop
  | nil : Entries [] []
  | given {part : Part} {parts : List Part} {value : Json} {rest : List (String × Json)} :
    part.Spelled value → Entries parts rest → Entries (part :: parts) ((part.key, value) :: rest)
  | leftOut {part : Part} {parts : List Part} {entries : List (String × Json)} :
    part.MayLack → Entries parts entries → Entries (part :: parts) entries

/-- A map that spells the parts of a record. -/
def SpellsRecord (parts : List Part) (value : Json) : Prop :=
  ∃ entries, Entries parts entries ∧ value = .map entries

/-- A list whose items stand for some values. -/
def SpellsList {α : Type} (Spells : α → Json → Prop) (as : List α) (value : Json) : Prop :=
  ∃ items, List.Forall₂ Spells as items ∧ value = .list items

/-- A value that stands for one that may be there; null stands for none. -/
def SpellsOption {α : Type} (Spells : α → Json → Prop) : Option α → Json → Prop
  | none, value => value = .null
  | some a, value => Spells a value

theorem Entries.key_mem {parts : List Part} {entries : List (String × Json)}
    (h : Entries parts entries) {entry : String × Json} (hentry : entry ∈ entries) :
    entry.1 ∈ parts.map (·.key) := by
  induction h with
  | nil => cases hentry
  | given _ _ ih =>
    rcases List.mem_cons.mp hentry with rfl | hentry
    · exact List.mem_cons_self
    · exact List.mem_cons_of_mem _ (ih hentry)
  | leftOut _ _ ih => exact List.mem_cons_of_mem _ (ih hentry)

/-- Parts in full spell themselves. -/
theorem entries_self {parts : List Part} (h : ∀ part ∈ parts, part.Spelled part.written) :
    Entries parts (parts.map Part.entry) := by
  induction parts with
  | nil => exact .nil
  | cons part parts ih =>
    exact .given (h part List.mem_cons_self) (ih fun p hp => h p (List.mem_cons_of_mem part hp))

theorem spellsRecord_self {parts : List Part} (h : ∀ part ∈ parts, part.Spelled part.written) :
    SpellsRecord parts (.map (parts.map Part.entry)) :=
  ⟨_, entries_self h, rfl⟩

theorem spellsList_self {α : Type} {Spells : α → Json → Prop} {encode : α → Json}
    (h : ∀ a, Spells a (encode a)) (as : List α) :
    SpellsList Spells as (.list (as.map encode)) :=
  ⟨_, List.forall₂_map_right_iff.mpr (List.forall₂_same.mpr fun a _ => h a), rfl⟩

theorem spellsOption_self {α : Type} {Spells : α → Json → Prop} {encode : α → Json}
    (h : ∀ a, Spells a (encode a)) (o : Option α) : SpellsOption Spells o (orNull encode o) := by
  cases o with
  | none => rfl
  | some a => exact h a

/-! ## Decoding what is spelled -/

variable {α σ : Type} {bound : Nat} {decode : Decoder α} {a : α} {written value : Json}

/-- A value that stands for one that is written in full: it can be written, it nests no deeper, and
with up to `bound` levels it is decoded as `a`. -/
structure Reads (bound : Nat) (decode : Decoder α) (a : α) (written value : Json) : Prop where
  writable : value.Writable
  whole : ∀ {room}, written.whole room = true → value.whole room = true
  decoded : ∀ mode {room}, room ≤ bound → written.whole room = true →
    decode mode room value = .ok a

namespace Reads

theorem mono {bound' : Nat} (h : Reads bound decode a written value) (hle : bound' ≤ bound) :
    Reads bound' decode a written value :=
  ⟨h.writable, h.whole, fun mode _ hroom => h.decoded mode (hroom.trans hle)⟩

/-- A map takes a level, so that a decoder without levels never meets one. -/
theorem zero {entries : List (String × Json)} {decode' : Decoder α}
    (h : Reads bound decode a (.map entries) value) :
    Reads 0 decode' a (.map entries) value where
  writable := h.writable
  whole := h.whole
  decoded := by
    intro mode room hroom hwhole
    obtain ⟨inside, rfl, -⟩ := pos_of_whole_map hwhole
    cases hroom

theorem self (hwritable : value.Writable) (h : ∀ mode room, decode mode room value = .ok a) :
    Reads bound decode a value value :=
  ⟨hwritable, id, fun mode _ _ _ => h mode _⟩

theorem text (s : String) : Reads bound Decoder.text s (.text s) (.text s) :=
  .self trivial fun _ _ => rfl

theorem flag (b : Bool) : Reads bound Decoder.flag b (.bool b) (.bool b) :=
  .self trivial fun _ _ => rfl

theorem word32 (n : UInt32) :
    Reads bound Decoder.word32 n (.int n.toNat) (.int n.toNat) := by
  have hlt : n.toNat < 2 ^ 32 := n.toNat_lt
  refine .self ⟨by omega, by omega⟩ fun _ _ => ?_
  have hfits : 0 ≤ (n.toNat : Int) ∧ (n.toNat : Int) < UInt32.size := by
    have hsize : UInt32.size = 2 ^ 32 := rfl
    omega
  rw [Decoder.word32, if_pos hfits, Int.toNat_natCast]
  exact congrArg Except.ok (UInt32.ofNat_toNat)

theorem variant {known : List (String × α)} {name : String} (h : known.lookup name = some a) :
    Reads bound (Decoder.variant known) a (.text name) (.text name) := by
  refine .self trivial fun _ _ => ?_
  rw [Decoder.variant, Decoder.named, h]

/-- A value that is there stands for one that may be there. -/
theorem present (h : Reads bound decode a written value) (hne : value ≠ .null) :
    Reads bound (Decoder.optional decode) (some a) written value where
  writable := h.writable
  whole := h.whole
  decoded := by
    intro mode room hroom hwhole
    rw [Decoder.optional, h.decoded mode hroom hwhole]
    · rfl
    · exact hne

theorem absent : Reads bound (Decoder.optional decode) none .null .null :=
  .self trivial fun _ _ => rfl

theorem map {β : Type} (f : α → β) (h : Reads bound decode a written value) :
    Reads bound (fun mode room value => f <$> decode mode room value) (f a) written value where
  writable := h.writable
  whole := h.whole
  decoded := by
    intro mode room hroom hwhole
    rw [h.decoded mode hroom hwhole]
    rfl

theorem wholly {decode : Mode → Nat → Json → Except Problem α}
    (h : Reads bound decode a written value) :
    Reads bound (fun mode room value => Decoder.wholly (decode mode room) mode room value) a
      written value where
  writable := h.writable
  whole := h.whole
  decoded := by
    intro mode room hroom hwhole
    rw [Decoder.wholly, if_pos (h.whole hwhole)]
    exact h.decoded mode hroom hwhole

/-! ## Lists -/

theorem items {encode : α → Json} {as : List α} {values : List Json}
    (h : List.Forall₂ (fun a value => Reads bound decode a (encode a) value) as values) :
    AllWritable values ∧ ∀ {room}, wholeAll room (as.map encode) = true →
      wholeAll room values = true ∧
        ∀ {mode}, room ≤ bound → values.mapM (decode mode room) = .ok as := by
  induction h with
  | nil => exact ⟨trivial, fun _ => ⟨rfl, fun _ => rfl⟩⟩
  | cons hfirst _ ih =>
    refine ⟨⟨hfirst.writable, ih.1⟩, ?_⟩
    intro room hwhole
    rw [List.map_cons, wholeAll, Bool.and_eq_true] at hwhole
    obtain ⟨hrest, hdecoded⟩ := ih.2 hwhole.2
    refine ⟨?_, ?_⟩
    · rw [wholeAll, hfirst.whole hwhole.1, hrest]
      rfl
    · intro mode hroom
      rw [List.mapM_cons, hfirst.decoded mode hroom hwhole.1, hdecoded hroom]
      rfl

/-- A list stands for a list when its items stand for the items. -/
theorem list {encode : α → Json} {as : List α} {values : List Json}
    (h : List.Forall₂ (fun a value => Reads bound decode a (encode a) value) as values) :
    Reads bound (Decoder.list decode) as (.list (as.map encode)) (.list values) where
  writable := (items h).1
  whole := by
    intro room hwhole
    obtain ⟨inside, rfl, hinside⟩ := pos_of_whole_list hwhole
    exact ((items h).2 hinside).1
  decoded := by
    intro mode room hroom hwhole
    obtain ⟨inside, rfl, hinside⟩ := pos_of_whole_list hwhole
    exact ((items h).2 hinside).2 (by omega)

/-- A list of values that stand for themselves. -/
theorem listSelf {encode : α → Json} (h : ∀ a, Reads bound decode a (encode a) (encode a))
    (as : List α) :
    Reads bound (Decoder.list decode) as (.list (as.map encode)) (.list (as.map encode)) :=
  list (List.forall₂_map_right_iff.mpr (List.forall₂_same.mpr fun a _ => h a))

theorem ofSpellsList {encode : α → Json} {Spells : α → Json → Prop}
    (h : ∀ {a value}, Spells a value → Reads bound decode a (encode a) value) {as : List α}
    (hvalue : SpellsList Spells as value) :
    Reads bound (Decoder.list decode) as (.list (as.map encode)) value := by
  obtain ⟨items, hitems, rfl⟩ := hvalue
  exact list (hitems.imp fun _ _ => h)

theorem ofSpellsOption {encode : α → Json} {Spells : α → Json → Prop}
    (h : ∀ {a value}, Spells a value → Reads bound decode a (encode a) value)
    (hne : ∀ {a value}, Spells a value → value ≠ .null) {o : Option α}
    (hvalue : SpellsOption Spells o value) :
    Reads bound (Decoder.optional decode) o (Json.orNull encode o) value := by
  cases o with
  | none =>
    obtain rfl : value = .null := hvalue
    exact absent
  | some a => exact (h hvalue).present (hne hvalue)

end Reads

/-! ## Filling a record -/

variable {mode : Mode} {room : Nat} {parts : List Part} {fields : List (Decoder.Field σ)}
  {entries : List (String × Json)} {r r' : σ}

/-- Entries that lead a record through its fields in their order, from one state to another. -/
inductive Filled (mode : Mode) (room : Nat) :
    List (Decoder.Field σ) → σ → List (String × Json) → σ → Prop
  | nil {r : σ} : Filled mode room [] r [] r
  | given {f : Decoder.Field σ} {fields : List (Decoder.Field σ)} {fill : σ → σ} {value : Json}
      {rest : List (String × Json)} {r r' : σ} :
    value ≠ .unreadKey → f.fill mode room value = .ok fill →
    Filled mode room fields (fill r) rest r' →
    Filled mode room (f :: fields) r ((f.key, value) :: rest) r'
  | leftOut {f : Decoder.Field σ} {fields : List (Decoder.Field σ)}
      {entries : List (String × Json)} {r r' : σ} :
    f.presence ≠ .required → Filled mode room fields r entries r' →
    Filled mode room (f :: fields) r entries r'

/-- A record is filled by such entries. The fields before those that are left have been met, the
required ones among them for certain. -/
theorem fillEntries_of_filled (before : List (Decoder.Field σ)) {seen : List String}
    (h : Filled mode room fields r entries r')
    (hkeys : ((before ++ fields).map (·.key)).Nodup)
    (hseen : ∀ key ∈ seen, key ∈ before.map (·.key))
    (hrequired : ∀ f ∈ before, f.presence = .required → f.key ∈ seen) :
    Decoder.fillEntries (before ++ fields) mode room seen r entries = .ok r' := by
  induction h generalizing before seen with
  | nil =>
    have hnone : Decoder.missing? (before ++ []) seen = none := by
      rw [List.append_nil]
      refine List.find?_eq_none.mpr fun f hf => ?_
      rw [decide_eq_true_eq, not_and, not_not]
      exact hrequired f hf
    rw [Decoder.fillEntries, hnone]
  | @given f fields fill value rest r r' hvalue hfill _ ih =>
    have hfresh : f.key ∉ before.map (·.key) := by
      intro hmem
      rw [List.map_append] at hkeys
      exact List.disjoint_of_nodup_append hkeys hmem List.mem_cons_self
    have hfind : (before ++ f :: fields).find? (·.key = f.key) = some f := by
      rw [List.find?_append, List.find?_eq_none.mpr, Option.none_or,
        List.find?_cons_of_pos (by simp)]
      intro g hg
      rw [decide_eq_true_eq]
      exact fun heq => hfresh (List.mem_map.mpr ⟨g, hg, heq⟩)
    rw [Decoder.fillEntries, hfind]
    · simp only [if_neg fun hmem => hfresh (hseen _ hmem), hfill, bind, Except.bind]
      rw [List.append_cons] at hkeys ⊢
      apply ih (before ++ [f]) hkeys
      · intro key hkey
        rw [List.map_append, List.mem_append]
        rcases List.mem_cons.mp hkey with rfl | hkey
        · exact .inr List.mem_cons_self
        · exact .inl (hseen key hkey)
      · intro g hg hreq
        rcases List.mem_append.mp hg with hg | hg
        · exact List.mem_cons_of_mem _ (hrequired g hg hreq)
        · rw [List.mem_singleton.mp hg]
          exact List.mem_cons_self
    · exact hvalue
  | @leftOut f fields entries r r' hpresence _ ih =>
    rw [List.append_cons] at hkeys ⊢
    apply ih (before ++ [f]) hkeys
    · intro key hkey
      rw [List.map_append]
      exact List.mem_append_left _ (hseen key hkey)
    · intro g hg hreq
      rcases List.mem_append.mp hg with hg | hg
      · exact hrequired g hg hreq
      · rw [List.mem_singleton.mp hg] at hreq
        exact absurd hreq hpresence

/-! ## Records -/

/-- The fields of a record take its parts in their order: each part is read by its field, and one
that may be left out is there already. A field without a part is not required. -/
inductive Serves (bound : Nat) : List Part → List (Decoder.Field σ) → σ → σ → Prop
  | nil {r : σ} : Serves bound [] [] r r
  | part {α : Type} {part : Part} {parts : List Part} {presence : Decoder.Presence}
      {decode : Decoder α} {set : α → σ → σ} {fields : List (Decoder.Field σ)} {r r' : σ} (a : α) :
    (∀ value, part.Spelled value → Reads bound decode a part.written value) →
    (part.MayLack → presence ≠ .required ∧ set a r = r) →
    Serves bound parts fields (set a r) r' →
    Serves bound (part :: parts) (.of part.key presence decode set :: fields) r r'
  | none {α : Type} {key : String} {parts : List Part} {presence : Decoder.Presence}
      {decode : Decoder α} {set : α → σ → σ} {fields : List (Decoder.Field σ)} {r r' : σ} :
    presence ≠ .required → Serves bound parts fields r r' →
    Serves bound parts (.of key presence decode set :: fields) r r'

/-- A part with one spelling, which is always there. -/
theorem Serves.fixed {key : String} {presence : Decoder.Presence} {set : α → σ → σ} (a : α)
    (h : Reads bound decode a written written) (hrest : Serves bound parts fields (set a r) r') :
    Serves bound ({ key, written } :: parts) (.of key presence decode set :: fields) r r' := by
  refine .part a ?_ nofun hrest
  rintro _ rfl
  exact h

theorem ne_unreadKey_of_whole (h : value.whole room = true) : value ≠ .unreadKey := by
  rintro rfl
  cases h

/-- Entries that spell the parts of a record can be written, nest no deeper, and lead the record
through its fields. -/
theorem Serves.leads (h : Serves bound parts fields r r') (hentries : Entries parts entries) :
    EntriesWritable entries ∧
      ∀ {room}, wholeEntries room (parts.map Part.entry) = true →
        wholeEntries room entries = true ∧
          ∀ mode, room ≤ bound → Filled mode room fields r entries r' := by
  induction h generalizing entries with
  | nil =>
    cases hentries
    exact ⟨trivial, fun _ => ⟨rfl, fun _ _ => .nil⟩⟩
  | @part α part parts presence decode set fields r r' a hreads hlack hrest ih =>
    cases hentries with
    | @given _ _ value rest hspelled hentries =>
      have hvalue := hreads value hspelled
      obtain ⟨hwritable, hih⟩ := ih hentries
      refine ⟨⟨hvalue.writable, hwritable⟩, ?_⟩
      intro room hwhole
      rw [List.map_cons, Part.entry, wholeEntries, Bool.and_eq_true] at hwhole
      obtain ⟨hwholeRest, hfilled⟩ := hih hwhole.2
      have hwholeValue := hvalue.whole hwhole.1
      refine ⟨?_, ?_⟩
      · rw [wholeEntries, hwholeValue, hwholeRest]
        rfl
      · intro mode hroom
        have hfill : (Decoder.Field.of part.key presence decode set).fill mode room value =
            .ok (set a) := by
          show set <$> decode mode room value = _
          rw [hvalue.decoded mode hroom hwhole.1]
          rfl
        exact .given (f := .of part.key presence decode set) (ne_unreadKey_of_whole hwholeValue)
          hfill (hfilled mode hroom)
    | leftOut hmay hentries =>
      obtain ⟨hpresence, hset⟩ := hlack hmay
      obtain ⟨hwritable, hih⟩ := ih hentries
      refine ⟨hwritable, ?_⟩
      intro room hwhole
      rw [List.map_cons, Part.entry, wholeEntries, Bool.and_eq_true] at hwhole
      obtain ⟨hwholeRest, hfilled⟩ := hih hwhole.2
      refine ⟨hwholeRest, ?_⟩
      intro mode hroom
      rw [hset] at hfilled
      exact .leftOut hpresence (hfilled mode hroom)
  | none hpresence _ ih =>
    obtain ⟨hwritable, hih⟩ := ih hentries
    refine ⟨hwritable, fun hwhole => ⟨(hih hwhole).1, fun mode hroom => ?_⟩⟩
    exact .leftOut hpresence ((hih hwhole).2 mode hroom)

/-- A map of entries that spell the parts of a record stands for the map of the parts in full. -/
theorem Serves.reads {start : σ} (h : Serves bound parts fields start r)
    (hkeys : (fields.map (·.key)).Nodup) (hentries : Entries parts entries) (name : String) :
    Reads (bound + 1) (Decoder.record name start fields) r (.map (parts.map Part.entry))
      (.map entries) where
  writable := (h.leads hentries).1
  whole := by
    intro room hwhole
    obtain ⟨inside, rfl, hinside⟩ := pos_of_whole_map hwhole
    exact ((h.leads hentries).2 hinside).1
  decoded := by
    intro mode room hroom hwhole
    obtain ⟨inside, rfl, hinside⟩ := pos_of_whole_map hwhole
    have hfilled := ((h.leads hentries).2 hinside).2 mode (by omega)
    exact fillEntries_of_filled [] hfilled hkeys (by simp) (by simp)

theorem Serves.readsRecord {start : σ} (h : Serves bound parts fields start r)
    (hkeys : (fields.map (·.key)).Nodup) (hvalue : SpellsRecord parts value) (name : String) :
    Reads bound (Decoder.record name start fields) r (.map (parts.map Part.entry)) value := by
  obtain ⟨entries, hentries, rfl⟩ := hvalue
  exact (h.reads hkeys hentries name).mono (Nat.le_succ bound)

end BoundaryGen.Json
