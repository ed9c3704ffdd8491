-- The names that occur in a type. The text of a type depends on how these names are written, and on
-- no other name.
import Mathlib
import BoundaryGen.Proofs.TypeRef.Rendering

namespace BoundaryGen.TypeRef

mutual
/-- The names that occur in a type, from left to right. -/
def names : TypeRef → List String
  | ⟨name, arguments, _⟩ => name :: argumentNames arguments
/-- The names that occur in some arguments. -/
def argumentNames : List TypeArgument → List String
  | [] => []
  | ⟨_, none⟩ :: rest => argumentNames rest
  | ⟨_, some type⟩ :: rest => names type ++ argumentNames rest
end

theorem name_mem_names (t : TypeRef) : t.name ∈ t.names := by
  obtain ⟨name, arguments, nullable⟩ := t
  exact List.mem_cons_self

theorem names_subset_argumentNames {arguments : List TypeArgument} {a : TypeArgument} {t : TypeRef}
    (ha : a ∈ arguments) (ht : a.type = some t) : t.names ⊆ argumentNames arguments := by
  induction arguments with
  | nil => cases ha
  | cons b rest ih =>
    obtain ⟨variance, type⟩ := b
    rcases List.mem_cons.mp ha with rfl | hrest
    · obtain rfl : type = some t := ht
      exact List.subset_append_left _ _
    · cases type with
      | none => exact ih hrest
      | some other => exact List.Subset.trans (ih hrest) (List.subset_append_right _ _)

/-- An argument of a type has no names but those of the type. -/
theorem names_subset_of_argument? {t inner : TypeRef} {i : Nat} (h : t.argument? i = some inner) :
    inner.names ⊆ t.names := by
  obtain ⟨name, arguments, nullable⟩ := t
  obtain ⟨a, ha, ht⟩ := Option.bind_eq_some_iff.mp h
  exact List.Subset.trans (names_subset_argumentNames (List.mem_of_getElem? ha) ht)
    (List.subset_cons_self name _)

/-- A type with stars only has one name. -/
theorem names_starProjected (name : String) (arity : Nat) :
    (starProjected name arity).names = [name] := by
  have hstars : argumentNames (List.replicate arity { variance := .star }) = [] := by
    induction arity with
    | zero => rfl
    | succ arity ih => exact ih
  exact congrArg (name :: ·) hstars

variable {f g : String → String}

mutual
theorem chars_congr : ∀ t : TypeRef, (∀ name ∈ t.names, f name = g name) → t.chars f = t.chars g
  | ⟨name, arguments, nullable⟩, h => by
    have hname : f name = g name := h name List.mem_cons_self
    have hrest := argumentChars_congr arguments fun n hn => h n (List.mem_cons_of_mem name hn)
    rw [chars_eq, chars_eq, hname]
    cases arguments with
    | nil => rfl
    | cons a as => rw [bracketChars, bracketChars, hrest]
theorem argumentChars_congr : ∀ as : List TypeArgument,
    (∀ name ∈ argumentNames as, f name = g name) → argumentChars f as = argumentChars g as
  | [], _ => rfl
  | ⟨variance, none⟩ :: rest, h => by
    rw [argumentChars, argumentChars, argumentChars_congr rest h]
  | ⟨variance, some t⟩ :: rest, h => by
    rw [argumentChars, argumentChars,
      chars_congr t fun n hn => h n (List.mem_append_left _ hn),
      argumentChars_congr rest fun n hn => h n (List.mem_append_right _ hn)]
end

/-- The text of a type depends on its own names only. -/
theorem renderWith_congr {t : TypeRef} (h : ∀ name ∈ t.names, f name = g name) :
    t.renderWith f = t.renderWith g := by
  rw [renderWith, renderWith, chars_congr t h]

end BoundaryGen.TypeRef
