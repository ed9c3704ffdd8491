-- A file whose classes have none of the names that the other files use. With its declarations out
-- of sight, the snapshot of all files is that of the others under other numbers.
import Mathlib
import BoundaryGen.Proofs.Snapshot.Insertion
import BoundaryGen.Proofs.Snapshot.Restriction

namespace BoundaryGen

/-- A declaration in the place of another one, without super types. -/
def Declaration.hidden (d : Declaration) : Declaration := { d with shape := .function {} }

namespace Snapshot

variable {s s' : Snapshot} {first middle last : List Declaration} {es : List SourceEntry}

/-! ## Known names -/

/-- A snapshot knows the names of its classes. -/
theorem mem_knownNames_of_class {i : DeclId} {d : Declaration} (hd : s.get? i = some d)
    (hclass : d.class?.isSome) : d.qualifiedName ∈ knownNames s.entries := by
  refine List.mem_append_left _ (List.mem_map.mpr ⟨_, List.mem_filter.mpr ⟨entry_mem hd, ?_⟩, rfl⟩)
  rw [isClass_entry, hclass]

/-- A snapshot knows the names in the types of its declarations. -/
theorem mem_knownNames_of_typeNames {i : DeclId} {d : Declaration} (hd : s.get? i = some d) :
    ∀ name ∈ d.typeNames, name ∈ knownNames s.entries := by
  intro name hname
  exact List.mem_append_right _ (List.mem_flatMap.mpr ⟨_, entry_mem hd, hname⟩)

theorem mem_knownNames_congr {es es' : List SourceEntry} (h : es.Perm es') {name : String} :
    name ∈ knownNames es ↔ name ∈ knownNames es' :=
  (((h.filter _).map _).append (h.flatMap_right _)).mem_iff

/-! ## The others alone -/

/-- The snapshot of the other declarations, in which the new ones are out of sight. -/
def beside (s : Snapshot) (first middle last : List Declaration) : Snapshot where
  declarations :=
    (first ++ middle.map Declaration.hidden ++ last.map (·.renumber (· + middle.length))).toArray
  annotatedTable := s.annotatedTable.mapValues (·.map (skipGap first.length middle.length))
  classTable := s.classTable.mapValues (skipGap first.length middle.length)
  packages := s.packages

theorem superTypeCount_eq_sum (s : Snapshot) :
    s.superTypeCount = (s.declarations.toList.map (·.superTypeCount)).sum := rfl

namespace Inserted

theorem inserted_beside (h : Inserted s s' first middle last) :
    Inserted s (s.beside first middle last) first (middle.map Declaration.hidden) last where
  declarations := h.declarations
  declarations' := by rw [List.length_map]; rfl
  wellNumbered := h.wellNumbered
  middle_parent d hd p hp := by
    obtain ⟨d', hd', rfl⟩ := List.mem_map.mp hd
    exact h.middle_parent d' hd' hp
  last_parent := h.last_parent

theorem get?_beside (h : Inserted s s' first middle last) (i : DeclId) :
    (s.beside first middle last).get? (skipGap first.length middle.length i) =
      (s.get? i).map (·.renumber (skipGap first.length middle.length)) := by
  have hget := h.inserted_beside.get?_skipGap i
  rw [List.length_map] at hget
  exact hget

theorem annotated_beside (s : Snapshot) (first middle last : List Declaration) (name : String) :
    (s.beside first middle last).annotated name =
      (s.annotated name).map (skipGap first.length middle.length) := by
  unfold annotated beside
  rw [OrderedMap.get?_mapValues]
  cases s.annotatedTable.get? name <;> rfl

theorem findClass_beside (s : Snapshot) (first middle last : List Declaration) (name : String) :
    (s.beside first middle last).findClass name =
      (s.findClass name).map (skipGap first.length middle.length) :=
  OrderedMap.get?_mapValues _ s.classTable name

/-- The others alone are the same declarations under other numbers. -/
theorem renumbering (h : Inserted s s' first middle last) :
    Renumbering s (s.beside first middle last) (skipGap first.length middle.length) where
  injective := (skipGap_strictMono _ _).injective
  get? := h.get?_beside
  id_eq := h.wellNumbered.id_eq
  annotated := annotated_beside s first middle last
  findClass := findClass_beside s first middle last
  superTypeCount := by
    have hmiddle : (middle.map Declaration.hidden).map Declaration.superTypeCount =
        List.replicate middle.length 0 := by
      rw [List.map_map, ← List.map_const']
      rfl
    have hlast : (last.map (·.renumber (· + middle.length))).map Declaration.superTypeCount =
        last.map Declaration.superTypeCount := by
      rw [List.map_map]
      rfl
    rw [superTypeCount_eq_sum, superTypeCount_eq_sum, h.declarations]
    simp only [beside, List.map_append, List.sum_append, hmiddle, hlast, List.sum_replicate]
    simp

/-- An old number, and the declaration under it. -/
theorem exists_of_not_inGap (h : Inserted s s' first middle last) {i : DeclId}
    (hi : (!inGap first.length middle.length i) = true) :
    ∃ j, skipGap first.length middle.length j = i ∧
      s'.get? i = (s.get? j).map (·.renumber (skipGap first.length middle.length)) := by
  obtain ⟨j, rfl⟩ := exists_skipGap_eq (Bool.not_eq_true' _ ▸ hi)
  exact ⟨j, rfl, h.get?_skipGap j⟩

/-- When no new class has a known name, the new declarations are out of sight for the others. -/
theorem restricts {es' : List SourceEntry} (h : Inserted s s' first middle last) (hs : Lists s es)
    (hs' : Lists s' es')
    (hclasses : ∀ d ∈ middle, d.class?.isSome → d.qualifiedName ∉ knownNames s.entries) :
    Restricts s' (s.beside first middle last) (!inGap first.length middle.length ·)
      (· ∈ knownNames s.entries) := by
  have hfind : ∀ {name}, name ∈ knownNames s.entries →
      s'.findClass name = (s.findClass name).map (skipGap first.length middle.length) := by
    intro name hname
    refine h.findClass_skipGap hs'.wellNumbered fun d hd => ?_
    by_contra hnamed
    obtain ⟨hclass, rfl⟩ := Declaration.isClassNamed_iff.mp (Bool.not_eq_false _ ▸ hnamed)
    exact hclasses d hd hclass hname
  constructor
  · exact hs'.wellNumbered.id_eq
  · intro i hi
    obtain ⟨j, rfl, hget⟩ := h.exists_of_not_inGap hi
    rw [hget, h.get?_beside]
  · intro i d p hd hp
    rw [h.inGap_parent hs'.wellNumbered hd hp]
  · intro name
    rw [annotated_beside, h.filter_annotated hs hs']
  · intro name hname
    rw [findClass_beside, hfind hname]
  · intro name i hname hi
    rw [hfind hname, Option.map_eq_some_iff] at hi
    obtain ⟨j, -, rfl⟩ := hi
    rw [inGap_skipGap, Bool.not_false]
  · intro i d hi hd hclass
    obtain ⟨j, rfl, hget⟩ := h.exists_of_not_inGap hi
    rw [hget, Option.map_eq_some_iff] at hd
    obtain ⟨d, hd, rfl⟩ := hd
    have hknown : d.qualifiedName ∈ knownNames s.entries := mem_knownNames_of_class hd hclass
    exact hknown
  · intro i d hi hd
    obtain ⟨j, rfl, hget⟩ := h.exists_of_not_inGap hi
    rw [hget, Option.map_eq_some_iff] at hd
    obtain ⟨d, hd, rfl⟩ := hd
    have hknown : ∀ name ∈ d.typeNames, name ∈ knownNames s.entries :=
      mem_knownNames_of_typeNames hd
    exact hknown
  · intro i d hi hd hclass
    exact hclasses d (h.mem_middle (Bool.not_eq_false' _ ▸ hi) hd) hclass

end Inserted

/-! ## Types that serve as others -/

/-- The same types of known names serve as others in the snapshot of all files. -/
theorem Restricts.isAssignable_eq {t : Snapshot} {kept : DeclId → Bool} {known : String → Prop}
    {ρ : DeclId → DeclId} (h : Restricts s' t kept known) (hr : Renumbering s t ρ)
    (hw : WellNumbered s) (hw' : WellNumbered s') {target : String} {type : TypeRef}
    (hn : known type.name) : t.isAssignable target type = s'.isAssignable target type := by
  have hleads : s.LeadsTo type.name target ↔ t.LeadsTo type.name target := by
    unfold LeadsTo
    simp only [hr.superNames]
  rw [hr.isAssignable, Bool.eq_iff_iff, hw.isAssignable_iff, hw'.isAssignable_iff, hleads,
    h.leadsTo_iff hn]

end Snapshot

end BoundaryGen
