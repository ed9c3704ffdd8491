-- JSON documents survive writing and reading: a value that is written holds no
-- mark of a broken text, and its text is read as that value and nothing more.
import Mathlib
import BoundaryGen.Proofs.Json.Tokens

namespace BoundaryGen.Json

/-! ## Values that are written -/

mutual
/-- A value without marks whose numbers fit 64 bits, signed or unsigned. -/
def Writable : Json → Prop
  | .null | .bool _ | .text _ => True
  | .int n => -2 ^ 63 ≤ n ∧ n < 2 ^ 64
  | .list items => AllWritable items
  | .map entries => EntriesWritable entries
  | .real | .cut | .unread | .unreadKey => False
def AllWritable : List Json → Prop
  | [] => True
  | item :: rest => Writable item ∧ AllWritable rest
def EntriesWritable : List (String × Json) → Prop
  | [] => True
  | (_, value) :: rest => Writable value ∧ EntriesWritable rest
end

/-! ## Blanks -/

theorem skipSpace_newLine (level : Nat) (cs : List Char) :
    skipSpace (newLine level ++ cs) = skipSpace cs := by
  have hblank : ∀ c ∈ newLine level, isSpace c = true := by
    intro c hc
    rcases List.mem_cons.mp hc with rfl | hc
    · rfl
    · rw [List.eq_of_mem_replicate hc]
      rfl
  rw [skipSpace, List.dropWhile_append_of_pos hblank, skipSpace]

theorem skipSpace_cons {c : Char} (h : isSpace c = false) (cs : List Char) :
    skipSpace (c :: cs) = c :: cs := by
  simp [skipSpace, h]

theorem skipSpace_skipSpace (cs : List Char) : skipSpace (skipSpace cs) = skipSpace cs := by
  unfold skipSpace
  exact List.dropWhile_idempotent ..

theorem readValue_skipSpace (fuel : Nat) (cs : List Char) :
    readValue fuel (skipSpace cs) = readValue fuel cs := by
  cases fuel with
  | zero => rfl
  | succ fuel => rw [readValue, readValue, skipSpace_skipSpace]

theorem readItems_skipSpace (fuel : Nat) (cs : List Char) :
    readItems fuel (skipSpace cs) = readItems fuel cs := by
  cases fuel with
  | zero => rfl
  | succ fuel => rw [readItems, readItems, readValue_skipSpace]

theorem readEntries_skipSpace (fuel : Nat) (cs : List Char) :
    readEntries fuel (skipSpace cs) = readEntries fuel cs := by
  cases fuel with
  | zero => rfl
  | succ fuel => rw [readEntries, readEntries, skipSpace_skipSpace]

theorem readValue_newLine (fuel level : Nat) (cs : List Char) :
    readValue fuel (newLine level ++ cs) = readValue fuel cs := by
  rw [← readValue_skipSpace, skipSpace_newLine, readValue_skipSpace]

theorem readValue_blank (fuel : Nat) (cs : List Char) :
    readValue fuel (' ' :: cs) = readValue fuel cs := by
  have hskip : skipSpace (' ' :: cs) = skipSpace cs := rfl
  rw [← readValue_skipSpace, hskip, readValue_skipSpace]

/-- What follows a value: the end of the text, a comma or a new line. -/
def Follows (rest : List Char) : Prop :=
  ∀ c, rest.head? = some c → c = ',' ∨ c = '\n'

theorem Follows.endsNumber {rest : List Char} (h : Follows rest) : EndsNumber rest := by
  intro c hc
  rcases h c hc with rfl | rfl <;> decide

/-! ## Single values -/

theorem writeText_append (s : String) (cs : List Char) :
    writeText s ++ cs = '"' :: (s.toList.flatMap writeChar ++ '"' :: cs) := by
  simp [writeText]

theorem readValue_text (fuel : Nat) (s : String) (rest : List Char) :
    readValue (fuel + 1) (writeText s ++ rest) = (.text s, some rest) := by
  rw [writeText_append, readValue, skipSpace_cons rfl]
  simp only [readText_flatMap_writeChar]

theorem ne_of_isDigit {c d : Char} (hc : c.isDigit = true) (hd : d.isDigit = false) : c ≠ d := by
  rintro rfl
  rw [hd] at hc
  cases hc

theorem isSpace_of_isDigit {c : Char} (hc : c.isDigit = true) : isSpace c = false := by
  have hne (d : Char) (hd : d.isDigit = false) : c ≠ d := ne_of_isDigit hc hd
  simp [isSpace, hne ' ' rfl, hne '\t' rfl, hne '\n' rfl, hne '\r' rfl]

theorem readValue_digit {c : Char} (hc : c.isDigit = true) (fuel : Nat) (cs : List Char) :
    readValue (fuel + 1) (c :: cs) = readNumber false (c :: cs) := by
  rw [readValue, skipSpace_cons (isSpace_of_isDigit hc)]
  split
  case h_8 => rfl
  all_goals
    rename_i heq
    exact absurd (List.cons.inj heq).1 (ne_of_isDigit hc rfl)

theorem readValue_int (fuel : Nat) {n : Int} (hn : -2 ^ 63 ≤ n ∧ n < 2 ^ 64) {rest : List Char}
    (hr : EndsNumber rest) :
    readValue (fuel + 1) ((toString n).toList ++ rest) = (.int n, some rest) := by
  rw [toList_toString_int]
  split
  · rename_i hneg
    rw [List.cons_append, readValue, skipSpace_cons rfl]
    simp only [readNumber_toDigits hr, integerOf, if_true]
    have hmin : Int64.minValue.toInt = -2 ^ 63 := by decide
    rw [if_neg (by simp; omega), if_pos (by omega)]
    congr 2
    omega
  · rename_i hneg
    obtain ⟨c, cs, hd, hc⟩ := exists_decimal n.natAbs
    rw [hd, List.cons_append, readValue_digit hc, ← List.cons_append, ← hd,
      readNumber_toDigits hr]
    simp only [integerOf, Bool.false_eq_true, if_false]
    have hmax : UInt64.size = 2 ^ 64 := rfl
    rw [if_pos (by omega)]
    congr 2
    omega

/-! ## Lists and maps -/

/-- A written value starts with no blank and closes nothing. -/
theorem write_starts (level : Nat) (v : Json) : ∃ c cs, write level v = c :: cs ∧
    isSpace c = false ∧ c ≠ ']' := by
  cases v with
  | bool b => cases b <;> exact ⟨_, _, rfl, rfl, by decide⟩
  | list items => cases items <;> exact ⟨_, _, rfl, rfl, by decide⟩
  | map entries => cases entries <;> exact ⟨_, _, rfl, rfl, by decide⟩
  | int n =>
    rw [write, toList_toString_int]
    split
    · exact ⟨_, _, rfl, rfl, by decide⟩
    · obtain ⟨c, cs, hd, hc⟩ := exists_decimal n.natAbs
      exact ⟨c, cs, hd, isSpace_of_isDigit hc, ne_of_isDigit hc rfl⟩
  | _ => exact ⟨_, _, rfl, rfl, by decide⟩

theorem write_pos (level : Nat) (v : Json) : 0 < (write level v).length := by
  obtain ⟨c, cs, hv, -⟩ := write_starts level v
  rw [hv]
  exact Nat.succ_pos _

/-- The items of a list are read from their first line break on. -/
theorem readValue_list {fuel : Nat} {items : List Json} {cs rest : List Char}
    (hcs : ∃ c tail, skipSpace cs = c :: tail ∧ c ≠ ']')
    (h : readItems fuel cs = (items, some rest)) :
    readValue (fuel + 1) ('[' :: cs) = (.list items, some rest) := by
  obtain ⟨c, tail, hskip, hc⟩ := hcs
  rw [readValue, skipSpace_cons rfl]
  simp only
  split
  · rename_i heq
    rw [hskip] at heq
    exact absurd (List.cons.inj heq).1 hc
  · rw [readItems_skipSpace, h]

theorem readValue_map {fuel : Nat} {entries : List (String × Json)} {cs rest : List Char}
    (hcs : ∃ c tail, skipSpace cs = c :: tail ∧ c ≠ '\x7d')
    (h : readEntries fuel cs = (entries, some rest)) :
    readValue (fuel + 1) ('\x7b' :: cs) = (.map entries, some rest) := by
  obtain ⟨c, tail, hskip, hc⟩ := hcs
  rw [readValue, skipSpace_cons rfl]
  simp only
  split
  · rename_i heq
    rw [hskip] at heq
    exact absurd (List.cons.inj heq).1 hc
  · rw [readEntries_skipSpace, h]

section Step

variable {fuel : Nat} {cs r rest : List Char}

theorem readItems_last {item : Json} (h : readValue fuel cs = (item, some r))
    (hr : skipSpace r = ']' :: rest) : readItems (fuel + 1) cs = ([item], some rest) := by
  rw [readItems, h]
  dsimp only
  rw [hr]
  rfl

theorem readItems_next {item : Json} {items : List Json}
    (h : readValue fuel cs = (item, some (',' :: r))) (hr : readItems fuel r = (items, some rest)) :
    readItems (fuel + 1) cs = (item :: items, some rest) := by
  rw [readItems, h]
  dsimp only
  rw [skipSpace_cons rfl]
  exact congrArg (fun p : List Json × _ => (item :: p.1, p.2)) hr

theorem readEntries_last {value : Json} (key : String) (level : Nat)
    (h : readValue fuel cs = (value, some r)) (hr : skipSpace r = '\x7d' :: rest) :
    readEntries (fuel + 1) (newLine level ++ (writeText key ++ ':' :: cs)) =
      ([(key, value)], some rest) := by
  have hcolon : skipSpace (':' :: cs) = ':' :: cs := rfl
  rw [readEntries, skipSpace_newLine, writeText_append, skipSpace_cons rfl]
  simp only [readText_flatMap_writeChar, hcolon, h, hr]

theorem readEntries_next {value : Json} {entries : List (String × Json)} (key : String)
    (level : Nat) (h : readValue fuel cs = (value, some (',' :: r)))
    (hr : readEntries fuel r = (entries, some rest)) :
    readEntries (fuel + 1) (newLine level ++ (writeText key ++ ':' :: cs)) =
      ((key, value) :: entries, some rest) := by
  have hcolon : skipSpace (':' :: cs) = ':' :: cs := rfl
  have hcomma : skipSpace (',' :: r) = ',' :: r := rfl
  rw [readEntries, skipSpace_newLine, writeText_append, skipSpace_cons rfl]
  simp only [readText_flatMap_writeChar, hcolon, h, hcomma, hr, List.singleton_append]

end Step

theorem writeItems_starts (level : Nat) (item : Json) (items : List Json) (rest : List Char) :
    ∃ c tail, skipSpace (writeItems level (item :: items) ++ rest) = c :: tail ∧ c ≠ ']' := by
  obtain ⟨c, cs, hitem, hspace, hc⟩ := write_starts level item
  have hskip (more : List Char) : ∃ tail,
      skipSpace (newLine level ++ (write level item ++ more)) = c :: tail := by
    rw [skipSpace_newLine, hitem, List.cons_append, skipSpace_cons hspace]
    exact ⟨_, rfl⟩
  rcases items with _ | ⟨next, items⟩ <;> simp only [writeItems, List.append_assoc] <;>
    obtain ⟨tail, htail⟩ := hskip _ <;> exact ⟨c, tail, htail, hc⟩

theorem writeEntries_starts (level : Nat) (entry : String × Json)
    (entries : List (String × Json)) (rest : List Char) :
    ∃ c tail, skipSpace (writeEntries level (entry :: entries) ++ rest) = c :: tail ∧
      c ≠ '\x7d' := by
  have hskip (more : List Char) : ∃ tail,
      skipSpace (newLine level ++ (writeText entry.1 ++ more)) = '"' :: tail := by
    rw [skipSpace_newLine]
    exact ⟨_, rfl⟩
  obtain ⟨key, value⟩ := entry
  rcases entries with _ | ⟨next, entries⟩ <;> simp only [writeEntries, List.append_assoc] <;>
    obtain ⟨tail, htail⟩ := hskip _ <;> exact ⟨_, tail, htail, by decide⟩

theorem follows_newLine (level : Nat) (rest : List Char) : Follows (newLine level ++ rest) := by
  rintro c ⟨⟩
  exact Or.inr rfl

theorem follows_comma (rest : List Char) : Follows (',' :: rest) := by
  rintro c ⟨⟩
  exact Or.inl rfl

mutual
/-- A written value is read, and what follows it is left. -/
theorem readValue_write : ∀ (v : Json) {level fuel : Nat} {rest : List Char}, Writable v →
    Follows rest → (write level v).length ≤ fuel →
    readValue fuel (write level v ++ rest) = (v, some rest)
  | .null, level, fuel, rest, _, _, hf => by
    obtain ⟨fuel, rfl⟩ := Nat.exists_eq_add_one.mpr ((write_pos level _).trans_le hf)
    rfl
  | .bool true, level, fuel, rest, _, _, hf => by
    obtain ⟨fuel, rfl⟩ := Nat.exists_eq_add_one.mpr ((write_pos level _).trans_le hf)
    rfl
  | .bool false, level, fuel, rest, _, _, hf => by
    obtain ⟨fuel, rfl⟩ := Nat.exists_eq_add_one.mpr ((write_pos level _).trans_le hf)
    rfl
  | .int n, level, fuel, rest, hw, hr, hf => by
    obtain ⟨fuel, rfl⟩ := Nat.exists_eq_add_one.mpr ((write_pos level _).trans_le hf)
    exact readValue_int fuel hw hr.endsNumber
  | .text s, level, fuel, rest, _, _, hf => by
    obtain ⟨fuel, rfl⟩ := Nat.exists_eq_add_one.mpr ((write_pos level _).trans_le hf)
    exact readValue_text fuel s rest
  | .list [], level, fuel, rest, _, _, hf => by
    obtain ⟨fuel, rfl⟩ := Nat.exists_eq_add_one.mpr ((write_pos level _).trans_le hf)
    rfl
  | .list (item :: items), level, fuel, rest, hw, hr, hf => by
    obtain ⟨fuel, rfl⟩ := Nat.exists_eq_add_one.mpr ((write_pos level _).trans_le hf)
    have htext : write level (.list (item :: items)) ++ rest = '[' ::
        (writeItems (level + 1) (item :: items) ++ (newLine level ++ ']' :: rest)) := by
      simp [write]
    rw [htext]
    have hlen : (writeItems (level + 1) (item :: items)).length ≤ fuel := by
      have := congrArg List.length htext
      simp only [List.length_append, List.length_cons] at this hf
      omega
    exact readValue_list (writeItems_starts ..) (readItems_writeItems _ (by simp) hw hlen)
  | .map [], level, fuel, rest, _, _, hf => by
    obtain ⟨fuel, rfl⟩ := Nat.exists_eq_add_one.mpr ((write_pos level _).trans_le hf)
    rfl
  | .map (entry :: entries), level, fuel, rest, hw, hr, hf => by
    obtain ⟨fuel, rfl⟩ := Nat.exists_eq_add_one.mpr ((write_pos level _).trans_le hf)
    have htext : write level (.map (entry :: entries)) ++ rest = '\x7b' ::
        (writeEntries (level + 1) (entry :: entries) ++ (newLine level ++ '\x7d' :: rest)) := by
      simp [write]
    rw [htext]
    have hlen : (writeEntries (level + 1) (entry :: entries)).length ≤ fuel := by
      have := congrArg List.length htext
      simp only [List.length_append, List.length_cons] at this hf
      omega
    exact readValue_map (writeEntries_starts ..) (readEntries_writeEntries _ (by simp) hw hlen)
  | .real, _, _, _, hw, _, _ => hw.elim
  | .cut, _, _, _, hw, _, _ => hw.elim
  | .unread, _, _, _, hw, _, _ => hw.elim
  | .unreadKey, _, _, _, hw, _, _ => hw.elim
/-- The written items of a list are read up to its closing bracket. -/
theorem readItems_writeItems : ∀ (items : List Json) {level outer fuel : Nat} {rest : List Char},
    items ≠ [] → AllWritable items → (writeItems level items).length ≤ fuel →
    readItems fuel (writeItems level items ++ (newLine outer ++ ']' :: rest)) =
      (items, some rest)
  | [], _, _, _, _, hne, _, _ => absurd rfl hne
  | [item], level, outer, fuel, rest, _, hw, hf => by
    have hitem := write_pos level item
    simp only [writeItems, List.length_append, newLine, List.length_cons] at hf
    obtain ⟨fuel, rfl⟩ := Nat.exists_eq_add_one.mpr (show 0 < fuel by omega)
    refine readItems_last ?_ (r := newLine outer ++ ']' :: rest) (skipSpace_newLine ..)
    rw [writeItems, List.append_assoc, readValue_newLine]
    exact readValue_write item hw.1 (follows_newLine _ _) (by omega)
  | item :: next :: items, level, outer, fuel, rest, _, hw, hf => by
    have hitem := write_pos level item
    simp only [writeItems, List.length_append, newLine, List.length_cons] at hf
    obtain ⟨fuel, rfl⟩ := Nat.exists_eq_add_one.mpr (show 0 < fuel by omega)
    have hrest : (writeItems level (next :: items)).length ≤ fuel := by omega
    have hread := readValue_write item hw.1 (follows_comma
      (writeItems level (next :: items) ++ (newLine outer ++ ']' :: rest)))
      (show (write level item).length ≤ fuel by omega)
    rw [← readValue_newLine fuel level] at hread
    have hnext := readItems_next hread
      (readItems_writeItems (next :: items) (by simp) hw.2 hrest)
    simpa only [writeItems, List.append_assoc, List.cons_append] using hnext
/-- The written entries of a map are read up to its closing brace. -/
theorem readEntries_writeEntries : ∀ (entries : List (String × Json)) {level outer fuel : Nat}
    {rest : List Char}, entries ≠ [] → EntriesWritable entries →
    (writeEntries level entries).length ≤ fuel →
    readEntries fuel (writeEntries level entries ++ (newLine outer ++ '\x7d' :: rest)) =
      (entries, some rest)
  | [], _, _, _, _, hne, _, _ => absurd rfl hne
  | [(key, value)], level, outer, fuel, rest, _, hw, hf => by
    have hvalue := write_pos level value
    simp only [writeEntries, List.length_append, newLine, List.length_cons] at hf
    obtain ⟨fuel, rfl⟩ := Nat.exists_eq_add_one.mpr (show 0 < fuel by omega)
    have hread := readValue_write value hw.1 (follows_newLine outer ('\x7d' :: rest))
      (show (write level value).length ≤ fuel by omega)
    rw [← readValue_blank] at hread
    have hlast := readEntries_last key level hread (skipSpace_newLine ..)
    simpa only [writeEntries, List.append_assoc, List.cons_append] using hlast
  | (key, value) :: next :: entries, level, outer, fuel, rest, _, hw, hf => by
    have hvalue := write_pos level value
    simp only [writeEntries, List.length_append, newLine, List.length_cons] at hf
    obtain ⟨fuel, rfl⟩ := Nat.exists_eq_add_one.mpr (show 0 < fuel by omega)
    have hrest : (writeEntries level (next :: entries)).length ≤ fuel := by omega
    have hread := readValue_write value hw.1 (follows_comma
      (writeEntries level (next :: entries) ++ (newLine outer ++ '\x7d' :: rest)))
      (show (write level value).length ≤ fuel by omega)
    rw [← readValue_blank] at hread
    have hnext := readEntries_next key level hread
      (readEntries_writeEntries (next :: entries) (by simp) hw.2 hrest)
    simpa only [writeEntries, List.append_assoc, List.cons_append] using hnext
end

/-! ## Documents -/

/-- The text of a value is read as that value, and nothing follows it. -/
theorem read_pretty {v : Json} (h : Writable v) :
    read v.pretty = { value := v, ended := true } := by
  have hend : Follows [] := by
    rintro _ ⟨⟩
  have hread := readValue_write v h hend
    (show (write 0 v).length ≤ 2 * (write 0 v).length + 2 by omega)
  unfold read pretty
  rw [List.append_nil] at hread
  simp only [String.toList_ofList, hread]
  rfl

end BoundaryGen.Json
