-- Maps that keep the order in which their keys came. A key stands once;
-- putting a value under a key that stands already keeps the place of the key.

namespace BoundaryGen

namespace OrderedMap

variable {κ α β : Type} [DecidableEq κ]

/-! ## Entries -/

/-- Entries with `value` under `key`: in the place of the key when it stands, at the end
otherwise. -/
def insertEntry (key : κ) (value : α) : List (κ × α) → List (κ × α)
  | [] => [(key, value)]
  | (k, v) :: rest =>
    if k = key then (k, value) :: rest else (k, v) :: insertEntry key value rest

/-- No key comes or goes but the one that is put. -/
theorem mem_keys_insertEntry {key : κ} {value : α} {x : κ}
    {entries : List (κ × α)} :
    x ∈ (insertEntry key value entries).map (·.1) ↔ x = key ∨ x ∈ entries.map (·.1) := by
  induction entries with
  | nil => simp [insertEntry]
  | cons e rest ih =>
    by_cases h : e.1 = key
    · simp [insertEntry, h]
    · simp only [insertEntry, if_neg h, List.map_cons, List.mem_cons, ih]
      constructor <;> rintro (h | h | h) <;> simp_all

theorem nodup_insertEntry (key : κ) (value : α) {entries : List (κ × α)}
    (h : (entries.map (·.1)).Nodup) : ((insertEntry key value entries).map (·.1)).Nodup := by
  induction entries with
  | nil => simp [insertEntry]
  | cons e rest ih =>
    simp only [List.map_cons, List.nodup_cons] at h
    by_cases hk : e.1 = key
    · subst hk
      simpa [insertEntry] using h
    · simp only [insertEntry, if_neg hk, List.map_cons, List.nodup_cons, ih h.2, and_true,
        mem_keys_insertEntry, not_or]
      exact ⟨hk, h.1⟩

end OrderedMap

/-- A map from keys to values, in the order of the first arrival of each key. -/
structure OrderedMap (κ α : Type) where
  entries : List (κ × α)
  /-- No key stands twice. -/
  nodup : (entries.map (·.1)).Nodup
  deriving Repr, DecidableEq

namespace OrderedMap

variable {κ α β : Type}

/-! ## Reading -/

def empty : OrderedMap κ α := ⟨[], List.nodup_nil⟩

instance : Inhabited (OrderedMap κ α) := ⟨empty⟩

def size (m : OrderedMap κ α) : Nat := m.entries.length

def keys (m : OrderedMap κ α) : List κ := m.entries.map (·.1)

/-- The value under a key. -/
def get? [DecidableEq κ] (m : OrderedMap κ α) (key : κ) : Option α := m.entries.lookup key

/-! ## All entries at once -/

/-- Each value changed, under the same keys in the same order. -/
def mapValues (f : α → β) (m : OrderedMap κ α) : OrderedMap κ β :=
  ⟨m.entries.map fun (key, value) => (key, f value), by
    simpa [Function.comp_def] using m.nodup⟩

/-- The entries whose keys pass a test. -/
def filterKeys (p : κ → Bool) (m : OrderedMap κ α) : OrderedMap κ α :=
  ⟨m.entries.filter fun e => p e.1, m.nodup.sublist (List.filter_sublist.map _)⟩

/-! ## Writing -/

variable [DecidableEq κ]

/-- Puts a value under a key. -/
def insert (m : OrderedMap κ α) (key : κ) (value : α) : OrderedMap κ α :=
  ⟨insertEntry key value m.entries, nodup_insertEntry key value m.nodup⟩

/-- Every pair put in turn. -/
def insertAll (m : OrderedMap κ α) (pairs : List (κ × α)) : OrderedMap κ α :=
  pairs.foldl (fun m (key, value) => m.insert key value) m

def ofList (pairs : List (κ × α)) : OrderedMap κ α := empty.insertAll pairs

/-- What is put stands under its key, and every other key keeps its value. -/
theorem get?_insert (m : OrderedMap κ α) (key : κ) (value : α) (x : κ) :
    (m.insert key value).get? x = if x = key then some value else m.get? x := by
  obtain ⟨entries, h⟩ := m
  simp only [get?, insert]
  clear h
  induction entries with
  | nil =>
    by_cases hx : x = key
    · simp [insertEntry, hx]
    · have hb : (x == key) = false := beq_false_of_ne hx
      simp [insertEntry, List.lookup_cons, hx, hb]
  | cons e rest ih =>
    obtain ⟨k, v⟩ := e
    by_cases hk : k = key
    · by_cases hx : x = key
      · simp [insertEntry, hk, hx]
      · have hb : (x == key) = false := beq_false_of_ne hx
        simp [insertEntry, List.lookup_cons, hk, hx, hb]
    · by_cases hx : x = k
      · subst hx
        simp [insertEntry, hk]
      · have hb : (x == k) = false := beq_false_of_ne hx
        simp [insertEntry, List.lookup_cons, hk, hb, ih]

theorem get?_mapValues (f : α → β) (m : OrderedMap κ α) (key : κ) :
    (m.mapValues f).get? key = (m.get? key).map f := by
  obtain ⟨entries, h⟩ := m
  simp only [get?, mapValues]
  clear h
  induction entries with
  | nil => rfl
  | cons e rest ih =>
    rw [List.map_cons, List.lookup_cons, List.lookup_cons, ih]
    split <;> rfl

/-- A value stands under a key exactly when the two are an entry. -/
theorem get?_eq_some_iff {m : OrderedMap κ α} {key : κ} {value : α} :
    m.get? key = some value ↔ (key, value) ∈ m.entries := by
  unfold get?
  rw [List.lookup_eq_some_iff]
  constructor
  · rintro ⟨before, after, heq, -⟩
    rw [heq]
    exact List.mem_append_right before List.mem_cons_self
  · intro hmem
    obtain ⟨before, after, heq⟩ := List.append_of_mem hmem
    refine ⟨before, after, heq, ?_⟩
    -- The key stands once, and so not before this entry.
    have hnodup := m.nodup
    rw [heq, List.map_append, List.map_cons, List.nodup_append] at hnodup
    intro e he
    have hne := hnodup.2.2 _ (List.mem_map_of_mem he) _ List.mem_cons_self
    simpa using Ne.symm hne

/-- What is not put keeps its value. -/
theorem get?_insertAll_of_not_mem {m : OrderedMap κ α} {pairs : List (κ × α)} {key : κ}
    (h : key ∉ pairs.map (·.1)) : (m.insertAll pairs).get? key = m.get? key := by
  induction pairs generalizing m with
  | nil => rfl
  | cons pair rest ih =>
    simp only [List.map_cons, List.mem_cons, not_or] at h
    have hrest := ih (m := m.insert pair.1 pair.2) h.2
    rw [get?_insert, if_neg h.1] at hrest
    exact hrest

/-- A value that is put stands under its key when no other value is put there. -/
theorem get?_insertAll_of_mem {m : OrderedMap κ α} {pairs : List (κ × α)} {key : κ} {value : α}
    (hmem : (key, value) ∈ pairs) (h : ∀ v, (key, v) ∈ pairs → v = value) :
    (m.insertAll pairs).get? key = some value := by
  induction pairs generalizing m with
  | nil => cases hmem
  | cons pair rest ih =>
    by_cases hkey : key ∈ rest.map (·.1)
    · obtain ⟨⟨_, v⟩, hv, rfl⟩ := List.mem_map.mp hkey
      have hvalue := h v (List.mem_cons_of_mem pair hv)
      exact ih (hvalue ▸ hv) fun v hv => h v (List.mem_cons_of_mem pair hv)
    · have hpair : (key, value) = pair := (List.mem_cons.mp hmem).resolve_right fun hrest =>
        hkey (List.mem_map_of_mem hrest)
      subst hpair
      have hlast := get?_insertAll_of_not_mem (m := m.insert key value) hkey
      rw [get?_insert, if_pos rfl] at hlast
      exact hlast

/-! ## Keys that stand once -/

theorem insertEntry_of_not_mem {key : κ} (value : α) {entries : List (κ × α)}
    (h : key ∉ entries.map (·.1)) : insertEntry key value entries = entries ++ [(key, value)] := by
  induction entries with
  | nil => rfl
  | cons e rest ih =>
    simp only [List.map_cons, List.mem_cons, not_or] at h
    rw [insertEntry, if_neg (Ne.symm h.1), ih h.2, List.cons_append]

/-- New keys come behind the old ones, in their order. -/
theorem entries_insertAll {m : OrderedMap κ α} {pairs : List (κ × α)}
    (h : (m.entries.map (·.1) ++ pairs.map (·.1)).Nodup) :
    (m.insertAll pairs).entries = m.entries ++ pairs := by
  induction pairs generalizing m with
  | nil => simp [insertAll]
  | cons pair rest ih =>
    obtain ⟨key, value⟩ := pair
    have hkey : key ∉ m.entries.map (·.1) := fun hmem =>
      (List.nodup_append.mp h).2.2 _ hmem _ List.mem_cons_self rfl
    have hentries : (m.insert key value).entries = m.entries ++ [(key, value)] :=
      insertEntry_of_not_mem value hkey
    have hrest := ih (m := m.insert key value) (by
      rw [hentries, List.map_append, List.append_assoc]
      exact h)
    rw [hentries, List.append_assoc] at hrest
    exact hrest

/-- Pairs whose keys stand once are the entries of their map. -/
theorem entries_ofList {pairs : List (κ × α)} (h : (pairs.map (·.1)).Nodup) :
    (ofList pairs).entries = pairs :=
  entries_insertAll (m := empty) h

theorem ofList_entries (m : OrderedMap κ α) : ofList m.entries = m := by
  obtain ⟨entries, h⟩ := m
  have hentries := entries_ofList h
  cases hm : ofList entries with
  | mk entries' h' =>
    rw [hm] at hentries
    cases hentries
    rfl

end OrderedMap

end BoundaryGen
