-- The text of a well formed type is a text of the grammar, whatever names are
-- written in the place of its own. So it is read as that type under the names
-- that were written.
import Mathlib
import BoundaryGen.Proofs.TypeRef.Grammar
import BoundaryGen.TypeRef.Printer

namespace BoundaryGen.TypeRef

open Text

/-! ## Well formed types -/

/-- A name that can stand in a text: a run of name characters that is not empty. -/
def isTypeName (s : String) : Bool := !s.toList.isEmpty && s.toList.all isNameChar

mutual
/-- All names can stand in a text, and exactly the stars have no type. -/
def wellFormed : TypeRef → Bool
  | ⟨name, arguments, _⟩ => isTypeName name && argumentsWellFormed arguments
def argumentsWellFormed : List TypeArgument → Bool
  | [] => true
  | ⟨variance, none⟩ :: rest => variance = .star && argumentsWellFormed rest
  | ⟨variance, some type⟩ :: rest =>
    variance ≠ .star && wellFormed type && argumentsWellFormed rest
end

mutual
/-- A type with other names. -/
def mapNames (f : String → String) : TypeRef → TypeRef
  | ⟨name, arguments, nullable⟩ => ⟨f name, mapArgumentNames f arguments, nullable⟩
def mapArgumentNames (f : String → String) : List TypeArgument → List TypeArgument
  | [] => []
  | ⟨variance, none⟩ :: rest => ⟨variance, none⟩ :: mapArgumentNames f rest
  | ⟨variance, some type⟩ :: rest =>
    ⟨variance, some (mapNames f type)⟩ :: mapArgumentNames f rest
end

/-- A way to write names that keeps them names. -/
def KeepsNames (f : String → String) : Prop := ∀ s, isTypeName s → isTypeName (f s)

/-! ## Cutting blanks -/

theorem trim_blank (cs : List Char) : trim (' ' :: cs) = trim cs := by
  rw [trim, trim, skipBlanks_cons_of_blank (by decide)]

/-- A text with no blank at either end is left as it is. -/
theorem trim_eq_self {c d : Char} {cs : List Char} (hfirst : cs.head? = some c)
    (hc : isBlank c = false) (hlast : cs.getLast? = some d) (hd : isBlank d = false) :
    trim cs = cs := by
  rcases cs with _ | ⟨c', cs⟩
  · cases hfirst
  · cases hfirst
    rw [trim, skipBlanks_cons_of_not_blank hc, trimEnd]
    rw [← List.head?_reverse] at hlast
    rcases hr : (c :: cs).reverse with _ | ⟨d', r⟩
    · simp at hr
    · rw [hr] at hlast
      cases hlast
      rw [skipBlanks_cons_of_not_blank hd, ← hr, List.reverse_reverse]

/-! ## The ends of a type text -/

variable {f : String → String}

theorem exists_name (hf : KeepsNames f) {name : String} (h : isTypeName name = true) :
    (f name).toList ≠ [] ∧ ∀ c ∈ (f name).toList, isNameChar c = true := by
  have := hf name h
  simpa [isTypeName] using this

/-- The characters of the brackets of a type. -/
def bracketChars (f : String → String) : List TypeArgument → List Char
  | [] => []
  | a :: as => '<' :: commaSeparated (argumentChars f (a :: as)) ++ ['>']

/-- The mark of a nullable type. -/
def nullableChars (nullable : Bool) : List Char := if nullable then ['?'] else []

theorem chars_eq (f : String → String) (name : String) (arguments : List TypeArgument)
    (nullable : Bool) : chars f ⟨name, arguments, nullable⟩ =
      (f name).toList ++ (bracketChars f arguments ++ nullableChars nullable) := by
  cases arguments with
  | nil => exact List.append_assoc _ _ _
  | cons a as => exact List.append_assoc _ _ _

theorem chars_starts (hf : KeepsNames f) {t : TypeRef} (h : t.wellFormed = true) :
    ∃ c, (t.chars f).head? = some c ∧ isNameChar c = true := by
  obtain ⟨name, arguments, nullable⟩ := t
  rw [wellFormed, Bool.and_eq_true] at h
  obtain ⟨hne, hchars⟩ := exists_name hf h.1
  obtain ⟨c, cs, hname⟩ := List.exists_cons_of_ne_nil hne
  refine ⟨c, ?_, hchars c (hname ▸ List.mem_cons_self)⟩
  rw [chars_eq, hname]
  rfl

theorem chars_ends (hf : KeepsNames f) {t : TypeRef} (h : t.wellFormed = true) :
    ∃ d, (t.chars f).getLast? = some d ∧ isBlank d = false := by
  obtain ⟨name, arguments, nullable⟩ := t
  rw [wellFormed, Bool.and_eq_true] at h
  obtain ⟨hne, hchars⟩ := exists_name hf h.1
  rw [chars_eq]
  cases nullable with
  | true => exact ⟨'?', by simp [nullableChars, List.getLast?_append], by decide⟩
  | false =>
    rcases arguments with _ | ⟨a, as⟩
    · refine ⟨_, ?_, isBlank_of_isNameChar (hchars _ (List.getLast_mem hne))⟩
      simp [bracketChars, nullableChars, List.getLast?_eq_getLast_of_ne_nil hne]
    · exact ⟨'>', by simp [bracketChars, nullableChars, List.getLast?_append,
        List.getLast?_cons], by decide⟩

theorem trim_chars (hf : KeepsNames f) {t : TypeRef} (h : t.wellFormed = true) :
    trim (t.chars f) = t.chars f := by
  obtain ⟨c, hfirst, hc⟩ := chars_starts hf h
  obtain ⟨d, hlast, hd⟩ := chars_ends hf h
  exact trim_eq_self hfirst (isBlank_of_isNameChar hc) hlast hd

/-- A label with a blank behind it stays in front of a type. -/
theorem trim_label (hf : KeepsNames f) {t : TypeRef} (h : t.wellFormed = true) {c : Char}
    (hc : isBlank c = false) (label : List Char) :
    trim (c :: label ++ ' ' :: t.chars f) = c :: label ++ ' ' :: t.chars f := by
  obtain ⟨d, hlast, hd⟩ := chars_ends hf h
  refine trim_eq_self rfl hc ?_ hd
  rw [List.getLast?_append, List.getLast?_cons, hlast]
  rfl

/-! ## Type texts are derived -/

/-- A text that does not go on with a name. -/
def EndsName (rest : List Char) : Prop := ∀ c, rest.head? = some c → isNameChar c = false

theorem endsName_cons {c : Char} (h : isNameChar c = false) (rest : List Char) :
    EndsName (c :: rest) := by
  rintro _ ⟨⟩
  exact h

theorem blanks_nil : Blanks [] := by
  rintro _ ⟨⟩

theorem blanks_space : Blanks [' '] := by
  intro c hc
  rw [List.mem_singleton.mp hc]
  decide

theorem derives_typed (hf : KeepsNames f) {t : TypeRef} (h : t.wellFormed = true)
    {variance : Variance} (hv : variance ≠ .star) {rest : List Char}
    (ht : Derives (.type (t.mapNames f)) (t.chars f ++ rest) rest) :
    Derives (.argument ⟨variance, some (t.mapNames f)⟩)
      (trim (variance.label.toList ++ ' ' :: t.chars f) ++ rest) rest := by
  cases variance with
  | invariant =>
    have htext : trim (Variance.invariant.label.toList ++ ' ' :: t.chars f) = t.chars f :=
      (trim_blank _).trans (trim_chars hf h)
    rw [htext]
    exact .invariant ht
  | inward =>
    have htext : trim (Variance.inward.label.toList ++ ' ' :: t.chars f) =
        ['i', 'n'] ++ ' ' :: t.chars f := trim_label hf h (by decide) ['n']
    rw [htext]
    simpa using Derives.inward blanks_nil blanks_space (by simp) ht
  | outward =>
    have htext : trim (Variance.outward.label.toList ++ ' ' :: t.chars f) =
        ['o', 'u', 't'] ++ ' ' :: t.chars f := trim_label hf h (by decide) ['u', 't']
    rw [htext]
    simpa using Derives.outward blanks_nil blanks_space (by simp) ht
  | star => exact absurd rfl hv

theorem derives_name (hf : KeepsNames f) {name : String} (h : isTypeName name = true)
    {arguments : List TypeArgument} {brackets : List Char}
    (hb : ∀ rest, Derives (.brackets arguments) (brackets ++ rest) rest)
    (hstart : brackets = [] ∨ ∃ cs, brackets = '<' :: cs) (nullable : Bool) {rest : List Char}
    (hr : EndsName rest) : Derives (.type ⟨f name, arguments, nullable⟩)
      ((f name).toList ++ (brackets ++ nullableChars nullable) ++ rest) rest := by
  obtain ⟨hne, hchars⟩ := exists_name hf h
  have hname (r : List Char) (hends : EndsName r) : IsName (f name).toList (brackets ++ r) := by
    refine ⟨hne, hchars, ?_⟩
    rcases hstart with rfl | ⟨cs, rfl⟩
    · exact hends
    · exact endsName_cons (by decide) _
  rw [← String.ofList_toList (s := f name)]
  cases nullable with
  | false => simpa [nullableChars] using Derives.plain blanks_nil (hname rest hr) (hb rest)
  | true =>
    simpa [nullableChars] using Derives.nullable blanks_nil
      (hname ('?' :: rest) (endsName_cons (by decide) _)) (hb _) blanks_nil

/-- Pieces with commas between them are derived as arguments up to the closing bracket; or there
is none of either. -/
def Separated (as : List TypeArgument) (pieces : List (List Char)) : Prop :=
  as = [] ∧ pieces = [] ∨ pieces ≠ [] ∧
    ∀ rest, Derives (.arguments as) (commaSeparated pieces ++ '>' :: rest) rest

theorem Separated.cons {a : TypeArgument} {as : List TypeArgument} {piece : List Char}
    {pieces : List (List Char)} (has : Separated as pieces)
    (ha : ∀ r, EndsName r → Derives (.argument a) (piece ++ r) r) :
    Separated (a :: as) (piece :: pieces) := by
  refine Or.inr ⟨by simp, fun rest => ?_⟩
  rcases has with ⟨rfl, rfl⟩ | ⟨hne, hd⟩
  · have hfirst := ha ('>' :: rest) (endsName_cons (by decide) _)
    exact Derives.last (w := []) hfirst blanks_nil
  · obtain ⟨next, pieces, rfl⟩ := List.exists_cons_of_ne_nil hne
    have hfirst := ha (',' :: ' ' :: (commaSeparated (next :: pieces) ++ '>' :: rest))
      (endsName_cons (by decide) _)
    have hnext := (hd rest).behind_blanks blanks_space (by simp)
    simpa [commaSeparated] using Derives.next hfirst blanks_nil hnext

mutual
/-- The text of a well formed type is derived, under the names that were written. -/
theorem derives_chars (hf : KeepsNames f) : ∀ (t : TypeRef) {rest : List Char},
    t.wellFormed = true → EndsName rest → Derives (.type (t.mapNames f)) (t.chars f ++ rest) rest
  | ⟨name, [], nullable⟩, rest, h, hr => by
    rw [wellFormed, Bool.and_eq_true] at h
    rw [chars_eq, mapNames]
    exact derives_name hf h.1 (fun _ => .noBrackets) (Or.inl rfl) nullable hr
  | ⟨name, a :: as, nullable⟩, rest, h, hr => by
    rw [wellFormed, Bool.and_eq_true] at h
    rw [chars_eq, mapNames]
    refine derives_name hf h.1 (fun r => ?_) (Or.inr ⟨_, rfl⟩) nullable hr
    rcases separated_arguments hf (a :: as) h.2 with ⟨hnil, -⟩ | ⟨-, hd⟩
    · obtain ⟨variance, _ | t⟩ := a <;> cases hnil
    · simpa [bracketChars] using Derives.inBrackets blanks_nil (hd r)
theorem separated_arguments (hf : KeepsNames f) : ∀ (as : List TypeArgument),
    argumentsWellFormed as = true → Separated (mapArgumentNames f as) (argumentChars f as)
  | [], _ => Or.inl ⟨rfl, rfl⟩
  | ⟨variance, none⟩ :: as, h => by
    simp only [argumentsWellFormed, Bool.and_eq_true, decide_eq_true_eq] at h
    obtain ⟨rfl, h⟩ := h
    exact (separated_arguments hf as h).cons fun r _ => .star blanks_nil
  | ⟨variance, some t⟩ :: as, h => by
    simp only [argumentsWellFormed, Bool.and_eq_true, decide_eq_true_eq] at h
    obtain ⟨⟨hv, ht⟩, h⟩ := h
    exact (separated_arguments hf as h).cons fun r hr =>
      derives_typed hf ht hv (derives_chars hf t ht hr)
end

/-- The text of a well formed type is read as that type, under the names that were written. -/
theorem parse_renderWith (hf : KeepsNames f) {t : TypeRef} (h : t.wellFormed = true) :
    parse (t.renderWith f) = .ok (t.mapNames f) := by
  have hends : EndsName [] := by
    rintro _ ⟨⟩
  have hd := derives_chars hf t h hends
  rw [List.append_nil] at hd
  rw [parse_eq_ok_iff_readWhole, renderWith, String.toList_ofList]
  exact readWhole_of_writes ⟨[], blanks_nil, hd⟩

end BoundaryGen.TypeRef
