-- A snapshot with some of its declarations out of sight. A question that starts from what is kept,
-- or from a name that it uses, has the same answer there, as nothing leads from it out of sight.
import Mathlib
import BoundaryGen.Proofs.Snapshot.Assignability
import BoundaryGen.Proofs.Snapshot.TypeNames

namespace BoundaryGen.Snapshot

/-- `t` is `s` with some declarations out of sight. Those that are kept stand under their numbers,
and they use no names but those that `known` holds of. No class out of sight has such a name. -/
structure Restricts (s t : Snapshot) (kept : DeclId → Bool) (known : String → Prop) : Prop where
  id_eq : ∀ {i d}, s.get? i = some d → d.id = i
  get? : ∀ {i}, kept i = true → t.get? i = s.get? i
  parent : ∀ {i d p}, s.get? i = some d → d.parent = some p → kept p = kept i
  annotated : ∀ name, t.annotated name = (s.annotated name).filter kept
  findClass : ∀ {name}, known name → t.findClass name = s.findClass name
  kept_findClass : ∀ {name i}, known name → s.findClass name = some i → kept i = true
  known_class : ∀ {i d}, kept i = true → s.get? i = some d → d.class?.isSome →
    known d.qualifiedName
  known_type : ∀ {i d}, kept i = true → s.get? i = some d → ∀ name ∈ d.typeNames, known name
  unknown_class : ∀ {i d}, kept i = false → s.get? i = some d → d.class?.isSome →
    ¬ known d.qualifiedName

namespace Restricts

variable {s t : Snapshot} {kept : DeclId → Bool} {known : String → Prop}
  (h : Restricts s t kept known)
include h

/-! ## Declarations around a declaration -/

theorem parent? {i : DeclId} (hi : kept i = true) : t.parent? i = s.parent? i := by
  unfold Snapshot.parent?
  rw [h.get? hi]
  cases hd : s.get? i with
  | none => rfl
  | some d =>
    cases hp : d.parent with
    | none => simp [hp]
    | some p =>
      have hkept : kept p = true := (h.parent hd hp).trans hi
      simp [hp, h.get? hkept]

theorem grandparentId? {i : DeclId} (hi : kept i = true) :
    t.grandparentId? i = s.grandparentId? i := by
  unfold Snapshot.grandparentId?
  rw [h.parent? hi]

theorem kept_grandparentId? {i p : DeclId} (hp : s.grandparentId? i = some p) :
    kept p = kept i := by
  simp only [Snapshot.grandparentId?, Snapshot.parent?, Option.bind_eq_bind,
    Option.bind_eq_some_iff] at hp
  obtain ⟨d, ⟨d', hd', q, hq, hd⟩, hp⟩ := hp
  rw [h.parent hd hp, h.parent hd' hq]

theorem starProjectedType {i : DeclId} (hi : kept i = true) :
    t.starProjectedType i = s.starProjectedType i := by
  unfold Snapshot.starProjectedType
  rw [h.get? hi]

/-! ## Classes of known names -/

theorem classNamed {name : String} (hn : known name) : t.classNamed name = s.classNamed name := by
  unfold Snapshot.classNamed
  rw [h.findClass hn]
  cases hi : s.findClass name with
  | none => rfl
  | some i => simp [h.get? (h.kept_findClass hn hi)]

theorem superNames {name : String} (hn : known name) : t.superNames name = s.superNames name := by
  unfold Snapshot.superNames
  rw [h.classNamed hn]

/-- A class of a known name is a declaration that is kept. -/
theorem exists_of_classNamed {name : String} (hn : known name) {d : Declaration}
    {shape : ClassShape} (hc : s.classNamed name = some (d, shape)) :
    ∃ i, kept i = true ∧ s.get? i = some d ∧ d.class? = some shape := by
  simp only [Snapshot.classNamed, Option.bind_eq_bind, Option.bind_eq_some_iff] at hc
  obtain ⟨i, hi, d', hd, shape', hshape, hpair⟩ := hc
  cases hpair
  exact ⟨i, h.kept_findClass hn hi, hd, hshape⟩

theorem known_superNames {name : String} (hn : known name) :
    ∀ super ∈ s.superNames name, known super := by
  intro super hsuper
  rw [Snapshot.superNames] at hsuper
  split at hsuper
  · rename_i d shape hc
    obtain ⟨i, hi, hd, hshape⟩ := h.exists_of_classNamed hn hc
    obtain ⟨t, ht, rfl⟩ := List.mem_map.mp hsuper
    exact h.known_type hi hd _
      (Declaration.names_subset_of_superType hshape ht t.name_mem_names)
  · cases hsuper

theorem leadsTo_iff {name target : String} (hn : known name) :
    t.LeadsTo name target ↔ s.LeadsTo name target := by
  constructor
  · intro hleads
    induction hleads using Relation.ReflTransGen.head_induction_on with
    | refl => exact .refl
    | head hstep _ ih =>
      rw [h.superNames hn] at hstep
      exact .head hstep (ih (h.known_superNames hn _ hstep))
  · intro hleads
    induction hleads using Relation.ReflTransGen.head_induction_on with
    | refl => exact .refl
    | head hstep _ ih =>
      have hstep' := hstep
      rw [← h.superNames hn] at hstep'
      exact .head hstep' (ih (h.known_superNames hn _ hstep))

/-! ## Types of known names -/

theorem qualifierWithin (depth : Nat) {name : String} (hn : known name) :
    t.qualifierWithin depth name = s.qualifierWithin depth name := by
  induction depth generalizing name with
  | zero => rfl
  | succ depth ih =>
    rw [Snapshot.qualifierWithin, Snapshot.qualifierWithin, h.findClass hn]
    cases hi : s.findClass name with
    | none => rfl
    | some i =>
      have hkept := h.kept_findClass hn hi
      simp only [h.get? hkept, h.parent? hkept]
      cases hd : s.get? i with
      | none => rfl
      | some d =>
        cases hp : s.parent? i with
        | none => rfl
        | some parent =>
          simp only
          split
          · rename_i hclass
            -- The class around a class is kept, so that its name is known.
            have hparent : known parent.qualifiedName := by
              simp only [Snapshot.parent?, Option.bind_eq_bind, Option.bind_eq_some_iff] at hp
              obtain ⟨d', hd', p, hp, hget⟩ := hp
              exact h.known_class ((h.parent hd' hp).trans hkept) hget hclass
            rw [ih hparent]
          · rfl

theorem typeText {type : TypeRef} (hn : ∀ name ∈ type.names, known name) :
    t.typeText type = s.typeText type :=
  TypeRef.renderWith_congr fun name hname => h.qualifierWithin _ (hn name hname)

end Restricts

end BoundaryGen.Snapshot
