-- The declarations that carry an annotation: each comes as often as it carries it. They come in the
-- order of their places in the source, and in the order of their numbers where the places agree.
-- That leaves one list only.
import Mathlib
import BoundaryGen.Proofs.Snapshot.Reordering

namespace BoundaryGen

namespace Declaration

/-- How often a declaration carries an annotation. -/
def timesMarked (name : String) (d : Declaration) : Nat := d.annotations.countP (·.name = name)

theorem marks_eq_replicate (name : String) (d : Declaration) :
    d.marks name = List.replicate (d.timesMarked name) d.id := by
  rw [marks, timesMarked, List.countP_eq_length_filter, List.map_const']

theorem mem_marks {name : String} {d : Declaration} {i : DeclId} :
    i ∈ d.marks name ↔ 0 < d.timesMarked name ∧ i = d.id := by
  rw [marks_eq_replicate, List.mem_replicate, Nat.pos_iff_ne_zero]

/-- What declarations are ordered by: the path of the file, the line, the column and the number. -/
def sourceKey (d : Declaration) : String ×ₗ Nat ×ₗ Nat ×ₗ DeclId :=
  toLex (d.location.file, toLex (d.location.line.toNat, toLex (d.location.column.toNat, d.id)))

theorem id_eq_of_sourceKey_eq {d d' : Declaration} (h : d.sourceKey = d'.sourceKey) :
    d.id = d'.id := congrArg (fun key => (ofLex (ofLex (ofLex key).2).2).2) h

end Declaration

namespace Snapshot

instance : Ord Location := ⟨Location.compare⟩

instance : Std.TransOrd Location := inferInstanceAs (Std.TransCmp Location.compare)

/-! ## The order of declarations -/

/-- The order of two declarations by their places, and by their numbers in one place. -/
def sourceCompare (s : Snapshot) : DeclId → DeclId → Ordering :=
  compareLex (compareOn s.placeOf) (compareOn id)

instance (s : Snapshot) : Std.TransCmp s.sourceCompare :=
  inferInstanceAs (Std.TransCmp (compareLex (compareOn s.placeOf) (compareOn id)))

/-- Whether a declaration stands no later than another one. -/
def notBehind (s : Snapshot) (i j : DeclId) : Bool := (s.sourceCompare i j).isLE

/-- Of the declarations of two numbers the first stands no later in the source. -/
def NoLater (s : Snapshot) (i j : DeclId) : Prop :=
  ∀ d ∈ s.get? i, ∀ e ∈ s.get? j, d.sourceKey ≤ e.sourceKey

variable {s : Snapshot} {es : List SourceEntry} {d : Declaration}

theorem notBehind_trans (i j k : DeclId) (h : s.notBehind i j) (h' : s.notBehind j k) :
    s.notBehind i k :=
  Std.TransCmp.isLE_trans h h'

theorem notBehind_total (i j : DeclId) : s.notBehind i j || s.notBehind j i := by
  have hswap : s.sourceCompare i j = (s.sourceCompare j i).swap := Std.OrientedCmp.eq_swap
  rw [notBehind, notBehind, hswap]
  cases s.sourceCompare j i <;> rfl

theorem eq_of_notBehind {i j : DeclId} (h : s.notBehind i j) (h' : s.notBehind j i) : i = j := by
  have heq : s.sourceCompare i j = .eq := Std.OrientedCmp.isLE_antisymm h h'
  rw [sourceCompare, compareLex, Ordering.then_eq_eq] at heq
  exact Std.compare_eq_iff_eq.mp heq.2

/-- The order of some declarations is decided by what they are. -/
theorem eq_of_perm_of_notBehind {l l' : List DeclId} (h : l.Perm l')
    (hl : l.Pairwise (s.notBehind · ·)) (hl' : l'.Pairwise (s.notBehind · ·)) : l = l' :=
  h.eq_of_pairwise (fun _ _ _ _ => eq_of_notBehind) hl hl'

/-! ## Declarations and their numbers -/

/-- A declaration stands under its own number. -/
theorem WellNumbered.get?_id (hw : WellNumbered s) (hd : d ∈ s.declarations) :
    s.get? d.id = some d := by
  obtain ⟨i, hi⟩ := get?_of_mem (Array.mem_toList_iff.mpr hd)
  rw [hw.id_eq hi, hi]

theorem WellNumbered.eq_of_id_eq (hw : WellNumbered s) {d' : Declaration}
    (hd : d ∈ s.declarations) (hd' : d' ∈ s.declarations) (h : d.id = d'.id) : d = d' := by
  have hget := hw.get?_id hd
  rw [h, hw.get?_id hd'] at hget
  exact (Option.some.inj hget).symm

/-- Declarations are listed in the order of their numbers. -/
theorem WellNumbered.pairwise_id_lt (hw : WellNumbered s) :
    s.declarations.toList.Pairwise (·.id < ·.id) := by
  have hid : ∀ k (hk : k < s.declarations.toList.length), s.declarations.toList[k].id = k := by
    intro k hk
    apply hw.id_eq
    rw [get?, ← Array.getElem?_toList, List.getElem?_eq_getElem hk]
  rw [List.pairwise_iff_getElem]
  intro i j hi hj hlt
  rw [hid, hid]
  exact hlt

theorem WellNumbered.nodup_declarations (hw : WellNumbered s) : s.declarations.toList.Nodup :=
  hw.pairwise_id_lt.imp fun hlt heq => hlt.ne (congrArg Declaration.id heq)

theorem WellNumbered.noLater_iff (hw : WellNumbered s) {d' : Declaration}
    (hd : d ∈ s.declarations) (hd' : d' ∈ s.declarations) :
    s.NoLater d.id d'.id ↔ d.sourceKey ≤ d'.sourceKey := by
  simp [NoLater, hw.get?_id hd, hw.get?_id hd']

theorem WellNumbered.noLater_of_notBehind (hw : WellNumbered s) {i j : DeclId}
    (h : s.notBehind i j) : s.NoLater i j := by
  intro d hd e he
  have hsource : s.sourceCompare i j =
      (Location.compare d.location e.location).then (compare d.id e.id) := by
    rw [hw.id_eq hd, hw.id_eq he, ← placeOf_eq hd, ← placeOf_eq he]
    rfl
  rw [notBehind, hsource] at h
  simpa only [Location.compare, Declaration.sourceKey, Ordering.then_assoc,
    Ordering.isLE_then_iff_or, compare_lt_iff_lt, compare_eq_iff_eq, Std.isLE_compare,
    Prod.Lex.toLex_le_toLex] using h

/-! ## The order of an annotation -/

theorem notAfter_eq_notBehind {i j : DeclId} {d d' : Declaration} (hi : s.get? i = some d)
    (hj : s.get? j = some d') : notAfter s.declarations i j = s.notBehind i j := by
  have hi' : s.declarations[i]? = some d := hi
  have hj' : s.declarations[j]? = some d' := hj
  simp only [notAfter, hi', hj', notBehind, sourceCompare, compareLex, compareOn, placeOf_eq hi,
    placeOf_eq hj]
  rfl

namespace Lists

theorem annotated_eq (h : Lists s es) (name : String) :
    s.annotated name = (s.carriers name).mergeSort s.notBehind := by
  have hsame := List.map_mergeSort (f := id) (r := notAfter s.declarations) (s := s.notBehind)
    (l := s.carriers name) fun i hi j hj => by
      obtain ⟨d, hd⟩ := mem_carriers h.wellNumbered hi
      obtain ⟨d', hd'⟩ := mem_carriers h.wellNumbered hj
      exact notAfter_eq_notBehind hd hd'
  rw [List.map_id, List.map_id] at hsame
  rw [h.annotated, hsame]

theorem perm_annotated (h : Lists s es) (name : String) :
    (s.annotated name).Perm (s.carriers name) := by
  rw [h.annotated_eq]
  exact List.mergeSort_perm _ _

theorem pairwise_annotated (h : Lists s es) (name : String) :
    (s.annotated name).Pairwise (s.notBehind · ·) := by
  rw [h.annotated_eq]
  exact List.pairwise_mergeSort notBehind_trans notBehind_total _

/-- The declarations that carry an annotation are in the order of the source. -/
theorem noLater_annotated (h : Lists s es) (name : String) :
    (s.annotated name).Pairwise s.NoLater :=
  (h.pairwise_annotated name).imp h.wellNumbered.noLater_of_notBehind

/-! ## How often a declaration is listed -/

theorem mem_annotated_iff (h : Lists s es) {name : String} {i : DeclId} :
    i ∈ s.annotated name ↔ ∃ d ∈ s.declarations, d.id = i ∧ 0 < d.timesMarked name := by
  rw [(h.perm_annotated name).mem_iff, carriers, List.mem_flatMap]
  simp only [Array.mem_toList_iff, Declaration.mem_marks]
  constructor
  · rintro ⟨d, hd, hmarked, rfl⟩
    exact ⟨d, hd, rfl, hmarked⟩
  · rintro ⟨d, hd, rfl, hmarked⟩
    exact ⟨d, hd, hmarked, rfl⟩

/-- A declaration is found as often as it carries the annotation. -/
theorem count_annotated (h : Lists s es) {name : String} (hd : d ∈ s.declarations) :
    (s.annotated name).count d.id = d.timesMarked name := by
  have hw := h.wellNumbered
  have hother : ∀ d' ≠ d, d' ∈ s.declarations.toList →
      (List.count d.id ∘ Declaration.marks name) d' = 0 := by
    intro d' hne hd'
    apply List.count_eq_zero_of_not_mem
    rw [Declaration.mem_marks]
    rintro ⟨-, hid⟩
    exact hne (hw.eq_of_id_eq hd (Array.mem_toList_iff.mp hd') hid).symm
  have honce : s.declarations.toList.count d = 1 :=
    List.count_eq_one_of_mem hw.nodup_declarations (Array.mem_toList_iff.mpr hd)
  rw [(h.perm_annotated name).count_eq, carriers, List.count_flatMap,
    List.sum_map_eq_nsmul_single d _ hother, honce, one_smul, Function.comp_apply,
    Declaration.marks_eq_replicate, List.count_replicate_self]

end Lists

end Snapshot

end BoundaryGen
