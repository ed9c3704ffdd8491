-- Writing and reading types are inverse on the well formed types and on no
-- others. Whatever is read is well formed, and what is well formed is read back
-- from its own text.
import Mathlib
import BoundaryGen.Proofs.TypeRef.Rendering

namespace BoundaryGen.TypeRef

open Text

/-! ## What is derived is well formed -/

/-- All that a rule derives has names that can stand in a text, and stars where there is no
type. -/
def Symbol.WellFormed : Symbol → Prop
  | .type t => t.wellFormed = true
  | .brackets as | .arguments as => argumentsWellFormed as = true
  | .argument a => argumentsWellFormed [a] = true

theorem isTypeName_ofList {name rest : List Char} (h : IsName name rest) :
    isTypeName (String.ofList name) = true := by
  simp only [isTypeName, String.toList_ofList, Bool.and_eq_true, Bool.not_eq_true',
    List.isEmpty_eq_false_iff, List.all_eq_true]
  exact ⟨h.nonempty, h.chars⟩

/-- An argument that is well formed alone is so in front of others. -/
theorem argumentsWellFormed_cons {a : TypeArgument} {as : List TypeArgument}
    (h : argumentsWellFormed [a] = true) (hs : argumentsWellFormed as = true) :
    argumentsWellFormed (a :: as) = true := by
  obtain ⟨variance, _ | t⟩ := a
  · simp only [argumentsWellFormed, Bool.and_true] at h
    simp only [argumentsWellFormed, h, hs, Bool.and_true]
  · simp only [argumentsWellFormed, Bool.and_true] at h
    simp only [argumentsWellFormed, h, hs, Bool.and_true]

/-- An argument with a type is well formed as its type is. -/
theorem argumentsWellFormed_typed {variance : Variance} {t : TypeRef} (hv : variance ≠ .star)
    (h : t.wellFormed = true) : argumentsWellFormed [⟨variance, some t⟩] = true := by
  simp only [argumentsWellFormed, h, Bool.and_true]
  exact decide_eq_true hv

theorem Derives.wellFormed {symbol : Symbol} {text rest : List Char}
    (h : Derives symbol text rest) : symbol.WellFormed := by
  induction h with
  | plain _ hn _ ih | nullable _ hn _ _ ih =>
    have hbrackets : argumentsWellFormed _ = true := ih
    simp only [Symbol.WellFormed, TypeRef.wellFormed, isTypeName_ofList hn, hbrackets,
      Bool.and_self]
  | noBrackets | emptyBrackets => rfl
  | inBrackets _ _ ih => exact ih
  | last _ _ ih => exact ih
  | next _ _ _ ih ih' => exact argumentsWellFormed_cons ih ih'
  | star => rfl
  | invariant _ ih => exact argumentsWellFormed_typed (by decide) ih
  | inward _ _ _ _ ih => exact argumentsWellFormed_typed (by decide) ih
  | outward _ _ _ _ ih => exact argumentsWellFormed_typed (by decide) ih

/-- Only well formed types are read. -/
theorem wellFormed_of_parse {s : String} {t : TypeRef} (h : parse s = .ok t) :
    t.wellFormed = true := by
  obtain ⟨_, -, hd⟩ := writes_of_readWhole (parse_eq_ok_iff_readWhole.mp h)
  exact hd.wellFormed

/-! ## What is well formed is read back -/

mutual
theorem mapNames_id : ∀ t : TypeRef, t.mapNames id = t
  | ⟨name, arguments, nullable⟩ => by
    rw [mapNames, mapArgumentNames_id arguments]
    rfl
theorem mapArgumentNames_id : ∀ as : List TypeArgument, mapArgumentNames id as = as
  | [] => rfl
  | ⟨variance, none⟩ :: rest => by rw [mapArgumentNames, mapArgumentNames_id rest]
  | ⟨variance, some t⟩ :: rest => by
    rw [mapArgumentNames, mapNames_id t, mapArgumentNames_id rest]
end

/-- Names that are written as they are stay names. -/
theorem keepsNames_id : KeepsNames id := fun _ h => h

/-- A well formed type is read back from its text. -/
theorem parse_render {t : TypeRef} (h : t.wellFormed = true) : parse t.render = .ok t := by
  have hread := parse_renderWith keepsNames_id h
  rw [mapNames_id] at hread
  exact hread

/-! ## The law of writing and reading -/

/-- The text of a type is read as that type exactly when the type is well formed. So every type
that is read from some text is well formed, and its own text is read as the same type again. -/
theorem exactly_the_well_formed_types_are_read_back (t : TypeRef) :
    (parse t.render = .ok t ↔ t.wellFormed = true) ∧
      ∀ s, parse s = .ok t → t.wellFormed = true ∧ parse t.render = .ok t := by
  refine ⟨⟨wellFormed_of_parse, parse_render⟩, fun s hs => ?_⟩
  have hwell : t.wellFormed = true := wellFormed_of_parse hs
  exact ⟨hwell, parse_render hwell⟩

/-- Words for a variance as names, with brackets and marks of their own, between blanks. -/
theorem types_named_in_and_out_are_read_back :
    ∃ t, parse " Map < in in?, out out< * > , in<out?> > ? " = .ok t ∧
      t.arguments.length = 3 ∧ t.wellFormed = true ∧ parse t.render = .ok t := by
  have h : (parse " Map < in in?, out out< * > , in<out?> > ? ").toOption.any
      (·.arguments.length = 3) = true := by decide +kernel
  rcases hs : parse " Map < in in?, out out< * > , in<out?> > ? " with e | t
  · rw [hs] at h
    cases h
  · rw [hs] at h
    exact ⟨t, rfl, of_decide_eq_true h, (exactly_the_well_formed_types_are_read_back t).2 _ hs⟩

end BoundaryGen.TypeRef
