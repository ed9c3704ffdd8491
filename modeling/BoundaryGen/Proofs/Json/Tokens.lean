-- Tokens of JSON survive writing and reading: every text, whatever characters
-- it holds, and every number of 64 bits.
import Mathlib
import BoundaryGen.Json.Printer
import BoundaryGen.Json.Reader

namespace BoundaryGen.Json

open Text (hexValue digitsValue)

/-! ## Texts -/

theorem hexUnit_low : ∀ n < 0x20,
    hexUnit '0' '0' (Nat.digitChar (n / 16)) (Nat.digitChar (n % 16)) = some n := by decide

theorem ofUnit_low {c : Char} (h : c.toNat < 0x20) : Piece.ofUnit c.toNat = .char c := by
  have hhigh : isHighHalf c.toNat = false := by
    simp only [isHighHalf, Bool.and_eq_false_iff, decide_eq_false_iff_not]
    omega
  have hlow : isLowHalf c.toNat = false := by
    simp only [isLowHalf, Bool.and_eq_false_iff, decide_eq_false_iff_not]
    omega
  rw [Piece.ofUnit, hhigh, hlow, Char.ofNat_toNat]
  rfl

/-- A written character is read as one piece. -/
theorem readPieces_writeChar (c : Char) (done : List Piece) (rest : List Char) :
    readPieces done (writeChar c ++ rest) = readPieces (.char c :: done) rest := by
  unfold writeChar
  split_ifs with hquote hslash hback hfeed hline hreturn htab hlow
  any_goals
    subst c
    simp [readPieces, escaped]
  · simp [readPieces, hexUnit_low _ hlow, ofUnit_low hlow]
  · simp [readPieces, hslash, hlow]

theorem readPieces_flatMap_writeChar (cs : List Char) (done : List Piece) (rest : List Char) :
    readPieces done (cs.flatMap writeChar ++ '"' :: rest) =
      some (done.reverse ++ cs.map .char, rest) := by
  induction cs generalizing done with
  | nil => simp [readPieces]
  | cons c cs ih =>
    rw [List.flatMap_cons, List.append_assoc, readPieces_writeChar, ih]
    simp

theorem joinPieces_chars (cs done : List Char) :
    joinPieces done (cs.map .char) = some (done.reverse ++ cs) := by
  induction cs generalizing done with
  | nil => simp [joinPieces]
  | cons c cs ih => simp [joinPieces, ih]

theorem readText_flatMap_writeChar (s : String) (rest : List Char) :
    readText (s.toList.flatMap writeChar ++ '"' :: rest) = some (some s, rest) := by
  simp [readText, readPieces_flatMap_writeChar, joinPieces_chars]

/-! ## Numbers -/

theorem hexValue_digitChar : ∀ d < 10, hexValue (Nat.digitChar d) = some d := by decide

theorem digitsValue_append (cs : List Char) {d : Nat} (h : d < 10) :
    digitsValue 10 (cs ++ [Nat.digitChar d]) = digitsValue 10 cs * 10 + d := by
  simp [digitsValue, hexValue_digitChar d h]

theorem digitsValue_toDigits (n : Nat) : digitsValue 10 (Nat.toDigits 10 n) = n := by
  induction n using Nat.strong_induction_on with
  | h n ih =>
    rw [Nat.toDigits_eq_if (by decide)]
    split
    · rename_i h
      simpa [digitsValue] using congrArg (·.getD 0) (hexValue_digitChar n h)
    · rw [digitsValue_append _ (Nat.mod_lt n (by decide)), ih (n / 10) (by omega)]
      omega

theorem digitChar_ne_zero : ∀ d < 10, d ≠ 0 → Nat.digitChar d ≠ '0' := by decide

/-- Only zero itself starts with a zero. -/
theorem toDigits_head_ne_zero {n : Nat} (h : 0 < n) (tail : List Char) :
    Nat.toDigits 10 n ≠ '0' :: tail := by
  induction n using Nat.strong_induction_on generalizing tail with
  | h n ih =>
    rw [Nat.toDigits_eq_if (by decide)]
    split
    · rename_i hlt
      intro heq
      exact digitChar_ne_zero n hlt h.ne' (List.cons.inj heq).1
    · intro heq
      rcases hd : Nat.toDigits 10 (n / 10) with _ | ⟨c, cs⟩
      · exact Nat.toDigits_ne_nil hd
      · rw [hd, List.cons_append, List.cons.injEq] at heq
        exact ih (n / 10) (by omega) (by omega) cs (by rw [hd, heq.1])

theorem isDigit_of_mem_decimal (n : Nat) : ∀ c ∈ Nat.toDigits 10 n, c.isDigit = true :=
  fun _ hc => Nat.isDigit_of_mem_toDigits (by decide) (by decide) hc

theorem exists_decimal (n : Nat) : ∃ c cs, Nat.toDigits 10 n = c :: cs ∧ c.isDigit = true := by
  rcases hd : Nat.toDigits 10 n with _ | ⟨c, cs⟩
  · exact absurd hd Nat.toDigits_ne_nil
  · exact ⟨c, cs, rfl, isDigit_of_mem_decimal n c (hd ▸ List.mem_cons_self)⟩

/-- A text that does not go on with a number. -/
def EndsNumber (rest : List Char) : Prop :=
  ∀ c, rest.head? = some c → c.isDigit = false ∧ c ≠ '.' ∧ c ≠ 'e' ∧ c ≠ 'E'

theorem digits_append {cs rest : List Char} (hcs : ∀ c ∈ cs, c.isDigit = true)
    (hr : EndsNumber rest) : digits (cs ++ rest) = cs ∧ behindDigits (cs ++ rest) = rest := by
  have hrest : rest.takeWhile Char.isDigit = [] ∧ rest.dropWhile Char.isDigit = rest := by
    rcases rest with _ | ⟨c, rest⟩
    · exact ⟨rfl, rfl⟩
    · simp [(hr c rfl).1]
  rw [digits, behindDigits, List.takeWhile_append_of_pos hcs, List.dropWhile_append_of_pos hcs,
    hrest.1, hrest.2, List.append_nil]
  exact ⟨rfl, rfl⟩

theorem readFraction_of_ends {rest : List Char} (hr : EndsNumber rest) (negative : Bool)
    (whole : List Char) : readFraction negative whole rest =
      (integerOf negative (digitsValue 10 whole), some rest) := by
  unfold readFraction
  split
  · exact absurd rfl (hr _ rfl).2.1
  · exact absurd rfl (hr _ rfl).2.2.1
  · exact absurd rfl (hr _ rfl).2.2.2
  · rfl

theorem readNumber_toDigits {rest : List Char} (hr : EndsNumber rest) (negative : Bool) (n : Nat) :
    readNumber negative (Nat.toDigits 10 n ++ rest) = (integerOf negative n, some rest) := by
  have hdigits := digits_append (isDigit_of_mem_decimal n) hr
  unfold readNumber
  rw [hdigits.1, hdigits.2]
  split
  · rename_i hnil
    exact absurd hnil Nat.toDigits_ne_nil
  · rename_i c cs hzero
    rcases Nat.eq_zero_or_pos n with rfl | hpos
    · rw [Nat.toDigits_zero] at hzero
      cases hzero
    · exact absurd hzero (toDigits_head_ne_zero hpos _)
  · rw [readFraction_of_ends hr, digitsValue_toDigits]

/-- A number as it is written: its digits, behind a sign when it is below zero. -/
theorem toList_toString_int (n : Int) : (toString n).toList =
    if n < 0 then '-' :: Nat.toDigits 10 n.natAbs else Nat.toDigits 10 n.natAbs := by
  cases n with
  | ofNat n =>
    have hnonneg : ¬ Int.ofNat n < 0 := Int.not_lt.mpr (Int.natCast_nonneg n)
    rw [if_neg hnonneg]
    exact Nat.toList_repr
  | negSucc n =>
    rw [if_pos (Int.negSucc_lt_zero n)]
    show ("-" ++ Nat.repr (n + 1)).toList = _
    rw [String.toList_append, Nat.toList_repr]
    rfl

end BoundaryGen.Json
