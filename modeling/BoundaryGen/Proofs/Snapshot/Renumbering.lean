-- Two snapshots that hold the same declarations under other numbers, and that
-- every question to them has the same answer up to these numbers.
import Mathlib
import BoundaryGen.Model.Resolve

namespace BoundaryGen

variable {ρ : DeclId → DeclId}

/-! ## Declarations under other numbers -/

namespace Declaration

def renumber (ρ : DeclId → DeclId) (d : Declaration) : Declaration :=
  { d with id := ρ d.id, parent := d.parent.map ρ }

variable (d : Declaration)

@[simp] theorem renumber_id : (d.renumber ρ).id = ρ d.id := rfl

@[simp] theorem renumber_parent : (d.renumber ρ).parent = d.parent.map ρ := rfl

@[simp] theorem renumber_simpleName : (d.renumber ρ).simpleName = d.simpleName := rfl

@[simp] theorem renumber_qualifiedName : (d.renumber ρ).qualifiedName = d.qualifiedName := rfl

@[simp] theorem renumber_package : (d.renumber ρ).package = d.package := rfl

@[simp] theorem renumber_class? : (d.renumber ρ).class? = d.class? := rfl

@[simp] theorem renumber_function? : (d.renumber ρ).function? = d.function? := rfl

@[simp] theorem renumber_annotationNamed (name : String) :
    (d.renumber ρ).annotationNamed name = d.annotationNamed name := rfl

@[simp] theorem renumber_hasModifier (m : Modifier) :
    (d.renumber ρ).hasModifier m = d.hasModifier m := rfl

@[simp] theorem renumber_isCompanion : (d.renumber ρ).isCompanion = d.isCompanion := rfl

end Declaration

namespace Snapshot

/-! ## Snapshots under other numbers -/

/-- The declaration `i` of one snapshot is the declaration `ρ i` of the other. -/
structure Renumbering (s s' : Snapshot) (ρ : DeclId → DeclId) : Prop where
  injective : Function.Injective ρ
  get? : ∀ i, s'.get? (ρ i) = (s.get? i).map (·.renumber ρ)
  id_eq : ∀ {i d}, s.get? i = some d → d.id = i
  annotated : ∀ name, s'.annotated name = (s.annotated name).map ρ
  findClass : ∀ name, s'.findClass name = (s.findClass name).map ρ
  superTypeCount : s'.superTypeCount = s.superTypeCount

namespace Renumbering

variable {s s' : Snapshot} (h : Renumbering s s' ρ)
include h

/-! ## Finding declarations -/

theorem classNamed (name : String) : s'.classNamed name =
    (s.classNamed name).map fun (d, shape) => (d.renumber ρ, shape) := by
  unfold Snapshot.classNamed
  rw [h.findClass]
  cases hi : s.findClass name with
  | none => rfl
  | some i =>
    simp only [Option.map_some, Option.bind_eq_bind, Option.bind_some, h.get?]
    cases s.get? i with
    | none => rfl
    | some d => cases hd : d.class? <;> simp [hd]

theorem parent? (i : DeclId) : s'.parent? (ρ i) = (s.parent? i).map (·.renumber ρ) := by
  unfold Snapshot.parent?
  rw [h.get?]
  cases s.get? i with
  | none => rfl
  | some d => cases hp : d.parent <;> simp [hp, h.get?]

theorem grandparentId? (i : DeclId) : s'.grandparentId? (ρ i) = (s.grandparentId? i).map ρ := by
  unfold Snapshot.grandparentId?
  rw [h.parent?]
  cases s.parent? i <;> simp

theorem some_eq_map {o : Option DeclId} {i : DeclId} : o.map ρ = some (ρ i) ↔ o = some i := by
  rw [Option.map_eq_some_iff]
  constructor
  · rintro ⟨j, rfl, hj⟩
    rw [h.injective hj]
  · rintro rfl
    exact ⟨i, rfl, rfl⟩

/-! ## Assignability -/

theorem superNames (name : String) : s'.superNames name = s.superNames name := by
  unfold Snapshot.superNames
  rw [h.classNamed]
  cases s.classNamed name <;> rfl

theorem reaches (target : String) (fuel : Nat) (seen waiting : List String) :
    s'.reaches target fuel seen waiting = s.reaches target fuel seen waiting := by
  induction fuel generalizing seen waiting with
  | zero => rw [Snapshot.reaches, Snapshot.reaches]
  | succ fuel ih =>
    cases waiting with
    | nil => rfl
    | cons name rest => rw [Snapshot.reaches, Snapshot.reaches, ih, ih, h.superNames]

theorem isAssignable (target : String) (candidate : TypeRef) :
    s'.isAssignable target candidate = s.isAssignable target candidate := by
  rw [Snapshot.isAssignable, Snapshot.isAssignable, h.superTypeCount, h.reaches]

/-! ## Types -/

theorem starProjectedType (i : DeclId) :
    s'.starProjectedType (ρ i) = s.starProjectedType i := by
  unfold Snapshot.starProjectedType
  rw [h.get?]
  cases s.get? i <;> simp

theorem qualifierWithin (depth : Nat) (name : String) :
    s'.qualifierWithin depth name = s.qualifierWithin depth name := by
  induction depth generalizing name with
  | zero => rfl
  | succ depth ih =>
    rw [Snapshot.qualifierWithin, Snapshot.qualifierWithin, h.findClass]
    cases s.findClass name with
    | none => rfl
    | some i =>
      simp only [Option.map_some, h.get?, h.parent?]
      cases s.get? i with
      | none => rfl
      | some d => cases s.parent? i <;> simp [ih]

theorem qualifier (name : String) : s'.qualifier name = s.qualifier name :=
  h.qualifierWithin _ name

theorem typeText (t : TypeRef) : s'.typeText t = s.typeText t := by
  unfold Snapshot.typeText
  rw [show s'.qualifier = s.qualifier from funext h.qualifier]

/-! ## Functions -/

theorem functionsAnnotated (name : String) : s'.functionsAnnotated name =
    (s.functionsAnnotated name).map fun (d, f) => (d.renumber ρ, f) := by
  unfold Snapshot.functionsAnnotated
  rw [h.annotated, List.filterMap_map, List.map_filterMap]
  refine List.filterMap_congr fun i _ => ?_
  simp only [Function.comp_apply, h.get?]
  cases s.get? i with
  | none => rfl
  | some d => cases hf : d.function? <;> simp [hf]

end Renumbering

end Snapshot

end BoundaryGen
