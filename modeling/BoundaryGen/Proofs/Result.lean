-- Results that are a value or an error. Of steps that follow each other the first error is the
-- result, and a value comes out only when every step gives one.
import Mathlib

namespace BoundaryGen

variable {ε α β : Type} {x : Except ε α}

/-! ## Values -/

theorem bind_eq_ok {f : α → Except ε β} {b : β} (h : (x >>= f) = .ok b) :
    ∃ a, x = .ok a ∧ f a = .ok b := by
  cases x with
  | error e => cases h
  | ok a => exact ⟨a, rfl, h⟩

/-- A list whose every element is taken is taken as a whole. -/
theorem mapM_eq_ok {f : α → Except ε β} {g : α → β} {as : List α}
    (h : ∀ a ∈ as, f a = .ok (g a)) : as.mapM f = .ok (as.map g) := by
  induction as with
  | nil => rfl
  | cons a as ih =>
    rw [List.mapM_cons, h a List.mem_cons_self, ih fun b hb => h b (List.mem_cons_of_mem a hb)]
    rfl

/-- What is tested of a result is a value that passes the test. -/
theorem exists_of_toOption_any {p : α → Bool} (h : x.toOption.any p = true) :
    ∃ a, x = .ok a ∧ p a = true := by
  cases x with
  | error e => cases h
  | ok a => exact ⟨a, rfl, h⟩

/-! ## Errors -/

/-- The error of a result. -/
def errorOf : Except ε α → Option ε
  | .ok _ => none
  | .error e => some e

theorem errorOf_eq_some_iff {e : ε} : errorOf x = some e ↔ x = .error e := by
  cases x <;> simp [errorOf]

theorem errorOf_eq_none_iff : errorOf x = none ↔ ∃ a, x = .ok a := by
  cases x <;> simp [errorOf]

/-- Of two steps, the error of the first is met before that of the second. -/
theorem errorOf_bind {f : α → Except ε β} {e? : Option ε} (h : ∀ a, errorOf (f a) = e?) :
    errorOf (x >>= f) = (errorOf x).or e? := by
  cases x with
  | error e => rfl
  | ok a => exact h a

/-- What is made of a value at last leaves the error alone. -/
theorem errorOf_map (f : α → β) : errorOf (x >>= fun a => pure (f a)) = errorOf x := by
  cases x <;> rfl

end BoundaryGen
