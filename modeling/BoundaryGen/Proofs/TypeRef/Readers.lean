-- What the small readers of type texts read: blanks, names, and the words in
-- front of arguments. No character is both blank and part of a name, so a name
-- has one place where it starts and one where it ends.
import Mathlib
import BoundaryGen.TypeRef.Parser

namespace BoundaryGen.TypeRef

open Text

/-! ## Blanks -/

/-- A run of blanks, which may be empty. -/
def Blanks (w : List Char) : Prop := ∀ c ∈ w, isBlank c = true

theorem blanks_append {w w' : List Char} (h : Blanks w) (h' : Blanks w') : Blanks (w ++ w') := by
  intro c hc
  rcases List.mem_append.mp hc with hc | hc
  · exact h c hc
  · exact h' c hc

/-- What is skipped is blank. -/
theorem exists_skipBlanks (cs : List Char) : ∃ w, Blanks w ∧ cs = w ++ skipBlanks cs :=
  ⟨cs.takeWhile isBlank, fun _ hc => List.mem_takeWhile_imp hc,
    List.takeWhile_append_dropWhile.symm⟩

theorem skipBlanks_append {w : List Char} (h : Blanks w) (cs : List Char) :
    skipBlanks (w ++ cs) = skipBlanks cs := by
  unfold skipBlanks
  rw [List.dropWhile_append_of_pos h]

/-- Blanks are skipped up to the first character that is none. -/
theorem skipBlanks_append_cons {w : List Char} {c : Char} (hw : Blanks w) (hc : isBlank c = false)
    (cs : List Char) : skipBlanks (w ++ c :: cs) = c :: cs := by
  rw [skipBlanks_append hw, skipBlanks_cons_of_not_blank hc]

theorem skipBlanks_skipBlanks (cs : List Char) : skipBlanks (skipBlanks cs) = skipBlanks cs := by
  obtain ⟨w, hw, hcs⟩ := exists_skipBlanks cs
  conv_rhs => rw [hcs, skipBlanks_append hw]

theorem skipBlanks_blanks {w : List Char} (h : Blanks w) : skipBlanks w = [] := by
  have := skipBlanks_append h []
  rwa [List.append_nil] at this

/-- The codes of all blanks. -/
def blankCodes : List Nat :=
  [9, 10, 11, 12, 13, 0x20, 0x85, 0xA0, 0x1680, 0x2000, 0x2001, 0x2002, 0x2003, 0x2004, 0x2005,
    0x2006, 0x2007, 0x2008, 0x2009, 0x200A, 0x2028, 0x2029, 0x202F, 0x205F, 0x3000]

theorem mem_blankCodes {c : Char} (h : isBlank c = true) : c.toNat ∈ blankCodes := by
  simp only [isBlank, Bool.or_eq_true, Bool.and_eq_true, decide_eq_true_eq, beq_iff_eq] at h
  simp only [blankCodes, List.mem_cons, List.not_mem_nil, or_false]
  omega

/-- No blank is part of a name. -/
theorem isNameChar_of_isBlank {c : Char} (h : isBlank c = true) : isNameChar c = false := by
  have hall : ∀ n ∈ blankCodes, isNameChar (Char.ofNat n) = false := by decide +kernel
  have := hall c.toNat (mem_blankCodes h)
  rwa [Char.ofNat_toNat] at this

theorem isBlank_of_isNameChar {c : Char} (h : isNameChar c = true) : isBlank c = false := by
  cases hb : isBlank c
  · rfl
  · rw [isNameChar_of_isBlank hb] at h
    cases h

/-! ## Names -/

/-- The text `name` is a run of name characters in front of `rest`, and as long as can be. -/
structure IsName (name rest : List Char) : Prop where
  nonempty : name ≠ []
  chars : ∀ c ∈ name, isNameChar c = true
  maximal : ∀ c, rest.head? = some c → isNameChar c = false

theorem takeWhile_name {name rest : List Char} (h : IsName name rest) :
    (name ++ rest).takeWhile isNameChar = name := by
  rw [List.takeWhile_append_of_pos h.chars]
  rcases rest with _ | ⟨c, rest⟩
  · simp
  · simp [h.maximal c rfl]

theorem dropWhile_name {name rest : List Char} (h : IsName name rest) :
    (name ++ rest).dropWhile isNameChar = rest := by
  rw [List.dropWhile_append_of_pos h.chars]
  rcases rest with _ | ⟨c, rest⟩
  · rfl
  · simp [h.maximal c rfl]

theorem skipBlanks_name {name rest : List Char} (h : IsName name rest) :
    skipBlanks (name ++ rest) = name ++ rest := by
  rcases name with _ | ⟨c, name⟩
  · exact absurd rfl h.nonempty
  · exact skipBlanks_cons_of_not_blank (isBlank_of_isNameChar (h.chars c (by simp))) _

/-- A name behind blanks is read whole. -/
theorem readName_of_isName {w name rest : List Char} (hw : Blanks w) (h : IsName name rest) :
    readName (w ++ name ++ rest) = .ok (name, rest) := by
  unfold readName
  rw [List.append_assoc, skipBlanks_append hw, skipBlanks_name h]
  simp only [takeWhile_name h, dropWhile_name h]
  rcases name with _ | ⟨c, name⟩
  · exact absurd rfl h.nonempty
  · rfl

/-- Whatever is read as a name is one, behind blanks. -/
theorem isName_of_readName {cs name rest : List Char} (h : readName cs = .ok (name, rest)) :
    ∃ w, Blanks w ∧ IsName name rest ∧ cs = w ++ name ++ rest := by
  obtain ⟨w, hw, hcs⟩ := exists_skipBlanks cs
  unfold readName at h
  simp only at h
  split at h
  · cases h
  · rename_i name' hne
    cases h
    refine ⟨w, hw, ⟨fun he => hne he, fun c hc => List.mem_takeWhile_imp hc, ?_⟩, ?_⟩
    · intro c hc
      have := List.head?_dropWhile_not isNameChar (skipBlanks cs)
      rw [hc] at this
      simpa using this
    · rw [List.append_assoc, List.takeWhile_append_dropWhile]
      exact hcs

end BoundaryGen.TypeRef
