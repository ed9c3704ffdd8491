-- The readers of type texts look one character ahead. What a reader takes, says and leaves is
-- settled by what it takes and the one character behind, so a text that differs further on is read
-- the same way up to there.
import Mathlib
import BoundaryGen.Proofs.TypeRef.Grammar

namespace BoundaryGen.TypeRef

open Text

/-! ## Readers put together -/

/-- What reads a part of a text and leaves the rest. -/
abbrev Reader (α : Type) := List Char → Except Stop (α × List Char)

variable {α β : Type}

/-- What a reader says, and what it leaves, be it read or stopped. -/
def outcome : Except Stop (α × List Char) → Except Fault α × List Char
  | .ok (a, rest) => (.ok a, rest)
  | .error stop => (.error stop.fault, stop.rest)

namespace Reader

/-- Leaves all and gives a value. -/
def give (a : α) : Reader α := fun cs => .ok (a, cs)

/-- Leaves all and stops. -/
def fail (fault : Fault) : Reader α := fun cs => .error ⟨fault, cs⟩

/-- Reads one thing behind another. -/
def andThen (read : Reader α) (next : α → Reader β) : Reader β := fun cs =>
  read cs >>= fun x => next x.1 x.2

def behindBlanks (read : Reader α) : Reader α := fun cs => read (skipBlanks cs)

/-- Takes a character and goes on, or goes another way where the character does not stand. -/
def onChar (x : Char) (taken other : Reader α) : Reader α
  | [] => other []
  | c :: cs => if c = x then taken cs else other (c :: cs)

theorem andThen_of_ok {read : Reader α} {next : α → Reader β} {cs rest : List Char} {a : α}
    (h : read cs = .ok (a, rest)) : read.andThen next cs = next a rest := by
  rw [andThen, h]
  rfl

theorem andThen_of_error {read : Reader α} {next : α → Reader β} {cs : List Char} {stop : Stop}
    (h : read cs = .error stop) : read.andThen next cs = .error stop := by
  rw [andThen, h]
  rfl

theorem onChar_self (x : Char) (taken other : Reader α) (cs : List Char) :
    onChar x taken other (x :: cs) = taken cs := if_pos rfl

theorem onChar_of_ne {x : Char} {taken other : Reader α} {cs : List Char}
    (h : cs.head? ≠ some x) : onChar x taken other cs = other cs := by
  rcases cs with _ | ⟨c, cs⟩
  · rfl
  · exact if_neg fun hc => h (congrArg some hc)

end Reader

/-! ## What is left -/

/-- A reader leaves an end of the text, also where it stops. -/
def LeavesEnd (read : Reader α) : Prop := ∀ cs, (outcome (read cs)).2 <:+ cs

theorem skipBlanks_suffix (cs : List Char) : skipBlanks cs <:+ cs := List.dropWhile_suffix _

variable {read read' taken taken' other other' : Reader α} {next next' : α → Reader β}

namespace LeavesEnd

theorem give (a : α) : LeavesEnd (Reader.give a) := List.suffix_refl

theorem fail (fault : Fault) : LeavesEnd (Reader.fail fault : Reader α) := List.suffix_refl

theorem andThen (h : LeavesEnd read) (h' : ∀ a, LeavesEnd (next a)) :
    LeavesEnd (read.andThen next) := by
  intro cs
  have hleft := h cs
  rcases hread : read cs with stop | ⟨a, rest⟩
  · rw [hread] at hleft
    rw [Reader.andThen_of_error hread]
    exact hleft
  · rw [hread] at hleft
    rw [Reader.andThen_of_ok hread]
    exact (h' a rest).trans hleft

theorem length_le (h : LeavesEnd read) {cs rest : List Char} {a : α}
    (hread : read cs = .ok (a, rest)) : rest.length ≤ cs.length := by
  have hleft := h cs
  rw [hread] at hleft
  exact List.IsSuffix.length_le hleft

theorem behindBlanks (h : LeavesEnd read) : LeavesEnd read.behindBlanks := fun cs =>
  (h (skipBlanks cs)).trans (skipBlanks_suffix cs)

theorem onChar (x : Char) (h : LeavesEnd taken) (h' : LeavesEnd other) :
    LeavesEnd (Reader.onChar x taken other) := by
  rintro (_ | ⟨c, cs⟩)
  · exact h' []
  · rw [Reader.onChar]
    split
    · exact (h cs).trans (List.suffix_cons c cs)
    · exact h' (c :: cs)

end LeavesEnd

/-! ## What is looked at -/

/-- Two readers say the same about two texts with a common start, and leave the same of it, where
the one does not go beyond the start. The start without its last character is shorter than `n`. -/
def AgreeWithin (n : Nat) (read read' : Reader α) : Prop :=
  ∀ ⦃p : List Char⦄ ⦃c : Char⦄ ⦃r q : List Char⦄, p.length < n →
    (outcome (read (p ++ c :: r))).2 = q ++ c :: r →
    ∀ r', outcome (read' (p ++ c :: r')) = ((outcome (read (p ++ c :: r))).1, q ++ c :: r')

/-- What ends a text with a mark somewhere, and has the mark itself, ends in front of the mark or
there. -/
theorem exists_of_suffix {q r rest : List Char} {c : Char} (h : q ++ c :: r <:+ rest) :
    ∃ q', rest = q' ++ c :: r := by
  obtain ⟨z, rfl⟩ := h
  exact ⟨z ++ q, (List.append_assoc z q _).symm⟩

/-- The mark is not in what stands behind it. -/
theorem not_suffix_behind (q r : List Char) (c : Char) : ¬ q ++ c :: r <:+ r := by
  intro h
  have := h.length_le
  simp only [List.length_append, List.length_cons] at this
  omega

theorem dropWhile_common {P : Char → Bool} {p r q : List Char} {c : Char}
    (h : (p ++ c :: r).dropWhile P = q ++ c :: r) (r' : List Char) :
    (p ++ c :: r').dropWhile P = q ++ c :: r' ∧
      (p ++ c :: r').takeWhile P = (p ++ c :: r).takeWhile P := by
  induction p with
  | nil =>
    by_cases hc : P c = true
    · rw [List.nil_append, List.dropWhile_cons_of_pos hc] at h
      exact absurd (h ▸ List.dropWhile_suffix P) (not_suffix_behind q r c)
    · rw [List.nil_append, List.dropWhile_cons_of_neg hc] at h
      have hq : q = [] := List.append_left_eq_self.mp h.symm
      simp [hq, hc]
  | cons x p ih =>
    rw [List.cons_append] at h
    by_cases hx : P x = true
    · rw [List.dropWhile_cons_of_pos hx] at h
      simpa [hx] using ih h
    · rw [List.dropWhile_cons_of_neg hx, ← List.cons_append] at h
      have hq : x :: p = q := List.append_cancel_right h
      simp [← hq, hx]

theorem skipBlanks_common {p r q : List Char} {c : Char}
    (h : skipBlanks (p ++ c :: r) = q ++ c :: r) (r' : List Char) :
    skipBlanks (p ++ c :: r') = q ++ c :: r' := (dropWhile_common h r').1

namespace AgreeWithin

variable {n : Nat}

theorem zero : AgreeWithin 0 read read' := fun p _ _ _ hp => absurd hp (Nat.not_lt_zero p.length)

theorem ok (h : AgreeWithin n read read') {p r q : List Char} {c : Char} {a : α} (hp : p.length < n)
    (hread : read (p ++ c :: r) = .ok (a, q ++ c :: r)) (r' : List Char) :
    read' (p ++ c :: r') = .ok (a, q ++ c :: r') := by
  have hsame := h hp (by rw [hread]; rfl) r'
  rw [hread] at hsame
  rcases hread' : read' (p ++ c :: r') with stop | ⟨a', rest⟩ <;> rw [hread'] at hsame <;>
    cases hsame
  rfl

theorem error (h : AgreeWithin n read read') {p r q : List Char} {c : Char} {fault : Fault}
    (hp : p.length < n) (hread : read (p ++ c :: r) = .error ⟨fault, q ++ c :: r⟩)
    (r' : List Char) : read' (p ++ c :: r') = .error ⟨fault, q ++ c :: r'⟩ := by
  have hsame := h hp (by rw [hread]; rfl) r'
  rw [hread] at hsame
  rcases hread' : read' (p ++ c :: r') with ⟨fault', rest⟩ | ⟨a, rest⟩ <;> rw [hread'] at hsame <;>
    cases hsame
  rfl

theorem give (a : α) : AgreeWithin n (Reader.give a) (Reader.give a) := by
  intro p c r q _ hq r'
  have hpq : p = q := List.append_cancel_right hq
  rw [hpq]
  rfl

theorem fail (fault : Fault) :
    AgreeWithin n (Reader.fail fault : Reader α) (Reader.fail fault) := by
  intro p c r q _ hq r'
  have hpq : p = q := List.append_cancel_right hq
  rw [hpq]
  rfl

/-- Where the first reader takes at least `d` characters, the second one has these less to read. -/
theorem andThen {d : Nat} (h : AgreeWithin n read read')
    (h' : ∀ a, AgreeWithin (n - d) (next a) (next' a))
    (hleaves : ∀ a, LeavesEnd (next a))
    (htakes : ∀ {cs a rest}, read cs = .ok (a, rest) → rest.length + d ≤ cs.length) :
    AgreeWithin n (read.andThen next) (read'.andThen next') := by
  intro p c r q hp hq r'
  rcases hread : read (p ++ c :: r) with ⟨fault, rest⟩ | ⟨a, rest⟩
  · rw [Reader.andThen_of_error hread] at hq ⊢
    obtain rfl : rest = q ++ c :: r := hq
    rw [Reader.andThen_of_error (h.error hp hread r')]
    rfl
  · rw [Reader.andThen_of_ok hread] at hq ⊢
    obtain ⟨q', rfl⟩ := exists_of_suffix (hq ▸ hleaves a rest)
    have hlength := htakes hread
    simp only [List.length_append, List.length_cons] at hlength
    rw [Reader.andThen_of_ok (h.ok hp hread r')]
    exact h' a (by omega) hq r'

theorem behindBlanks (h : AgreeWithin n read read') (hleaves : LeavesEnd read) :
    AgreeWithin n read.behindBlanks read'.behindBlanks := by
  intro p c r q hp hq r'
  rw [Reader.behindBlanks] at hq ⊢
  rw [Reader.behindBlanks]
  obtain ⟨q', hskip⟩ := exists_of_suffix (hq ▸ hleaves (skipBlanks (p ++ c :: r)))
  have hlength := (skipBlanks_suffix (p ++ c :: r)).length_le
  rw [hskip] at hq hlength ⊢
  rw [skipBlanks_common hskip]
  simp only [List.length_append, List.length_cons] at hlength
  exact h (by omega) hq r'

theorem onChar (x : Char) (h : AgreeWithin (n - 1) taken taken') (hleaves : LeavesEnd taken)
    (h' : AgreeWithin n other other') :
    AgreeWithin n (Reader.onChar x taken other) (Reader.onChar x taken' other') := by
  intro p c r q hp hq r'
  rcases p with _ | ⟨y, p⟩
  · rw [List.nil_append, Reader.onChar] at hq ⊢
    rw [List.nil_append, Reader.onChar]
    by_cases hc : c = x
    · rw [if_pos hc] at hq
      exact absurd (hq ▸ hleaves r) (not_suffix_behind q r c)
    · rw [if_neg hc] at hq ⊢
      rw [if_neg hc]
      exact h' (p := []) hp hq r'
  · rw [List.cons_append, Reader.onChar] at hq ⊢
    rw [List.cons_append, Reader.onChar]
    rw [List.length_cons] at hp
    by_cases hy : y = x
    · rw [if_pos hy] at hq ⊢
      rw [if_pos hy]
      exact h (by omega) hq r'
    · rw [if_neg hy] at hq ⊢
      rw [if_neg hy]
      exact h' (p := y :: p) hp hq r'

end AgreeWithin

/-! ## The readers of types -/

/-- Reads a name that stands right here. -/
def nameHere : Reader (List Char) := fun cs =>
  match cs.takeWhile isNameChar with
  | [] => .error ⟨.nameExpected, cs⟩
  | name => .ok (name, cs.dropWhile isNameChar)

theorem outcome_nameHere (cs : List Char) : outcome (nameHere cs) =
    (if cs.takeWhile isNameChar = [] then .error .nameExpected else .ok (cs.takeWhile isNameChar),
      cs.dropWhile isNameChar) := by
  unfold nameHere
  split
  · rename_i hnone
    have hall := List.takeWhile_append_dropWhile (p := isNameChar) (l := cs)
    rw [hnone, List.nil_append] at hall
    rw [hnone, if_pos rfl, hall]
    rfl
  · rename_i hname
    rw [if_neg hname]
    rfl

theorem leavesEnd_nameHere : LeavesEnd nameHere := by
  intro cs
  rw [outcome_nameHere]
  exact List.dropWhile_suffix isNameChar

theorem agreeWithin_nameHere (n : Nat) : AgreeWithin n nameHere nameHere := by
  intro p c r q _ hq r'
  rw [outcome_nameHere] at hq
  obtain ⟨hdrop, htake⟩ := dropWhile_common hq r'
  rw [outcome_nameHere, outcome_nameHere, hdrop, htake]

theorem leavesEnd_readName : LeavesEnd readName := leavesEnd_nameHere.behindBlanks

theorem agreeWithin_readName (n : Nat) : AgreeWithin n readName readName :=
  (agreeWithin_nameHere n).behindBlanks leavesEnd_nameHere

theorem length_lt_of_readName {cs name rest : List Char} (h : readName cs = .ok (name, rest)) :
    rest.length + 1 ≤ cs.length := by
  obtain ⟨w, -, hname, rfl⟩ := isName_of_readName h
  have := List.length_pos_iff.mpr hname.nonempty
  simp only [List.length_append]
  omega

/-- The word in front of an argument, and what stands behind the blanks that follow it. -/
def readWord : Reader (List Char) :=
  Reader.andThen readName fun word => (Reader.give word).behindBlanks

theorem exists_of_readWord_eq_ok {cs word behind : List Char}
    (h : readWord cs = .ok (word, behind)) :
    ∃ rest, readName cs = .ok (word, rest) ∧ behind = skipBlanks rest := by
  unfold readWord at h
  rcases hname : readName cs with stop | ⟨word', rest⟩
  · rw [Reader.andThen_of_error hname] at h
    cases h
  · rw [Reader.andThen_of_ok hname] at h
    cases h
    exact ⟨rest, rfl, rfl⟩

theorem readName_of_readWord_eq_error {cs : List Char} {stop : Stop}
    (h : readWord cs = .error stop) : readName cs = .error stop := by
  unfold readWord at h
  rcases hname : readName cs with stop' | ⟨word', rest⟩
  · rw [Reader.andThen_of_error hname] at h
    cases h
    rfl
  · rw [Reader.andThen_of_ok hname] at h
    cases h

theorem leavesEnd_readWord : LeavesEnd readWord :=
  leavesEnd_readName.andThen fun word => (LeavesEnd.give word).behindBlanks

theorem agreeWithin_readWord (n : Nat) : AgreeWithin n readWord readWord :=
  (agreeWithin_readName n).andThen (d := 0)
    (fun word => (AgreeWithin.give word).behindBlanks (.give word))
    (fun word => (LeavesEnd.give word).behindBlanks) leavesEnd_readName.length_le

/-- What the brackets of a type hold, when they stand right here. -/
def brackets (arguments : Reader (List TypeArgument)) : Reader (List TypeArgument) :=
  Reader.onChar '<' (Reader.onChar '>' (Reader.give []) arguments).behindBlanks (Reader.give [])

theorem readBrackets_eq (arguments : Reader (List TypeArgument)) :
    readBrackets arguments = (brackets arguments).behindBlanks := by
  funext cs
  unfold readBrackets brackets Reader.behindBlanks
  by_cases hopen : (skipBlanks cs).head? = some '<'
  · obtain ⟨inner, hinner⟩ := List.head?_eq_some_iff.mp hopen
    simp only [hinner, Reader.onChar_self]
    by_cases hclose : (skipBlanks inner).head? = some '>'
    · obtain ⟨rest, hrest⟩ := List.head?_eq_some_iff.mp hclose
      simp only [hrest]
      rfl
    · rw [Reader.onChar_of_ne hclose]
      split
      · rename_i hrest
        exact absurd (congrArg List.head? hrest) hclose
      · rfl
  · rw [Reader.onChar_of_ne hopen]
    split
    · rename_i hinner
      exact absurd (congrArg List.head? hinner) hopen
    · rfl

/-- Reads the question mark that may end a type. -/
def mark (name : List Char) (arguments : List TypeArgument) : Reader TypeRef :=
  Reader.onChar '?' (Reader.give { name := String.ofList name, arguments, nullable := true })
    (Reader.give { name := String.ofList name, arguments })

theorem mark_eq (name : List Char) (arguments : List TypeArgument) :
    (mark name arguments).behindBlanks = fun cs =>
      .ok ({ name := String.ofList name, arguments, nullable := (readNullable cs).1 },
        (readNullable cs).2) := by
  funext cs
  unfold Reader.behindBlanks mark
  by_cases hmark : (skipBlanks cs).head? = some '?'
  · obtain ⟨rest, hrest⟩ := List.head?_eq_some_iff.mp hmark
    rw [readNullable_of_mark hrest, hrest]
    rfl
  · rw [readNullable_of_no_mark hmark, Reader.onChar_of_ne hmark]
    rfl

/-- What stands behind the name of a type. -/
def behindName (arguments : Reader (List TypeArgument)) (name : List Char) : Reader TypeRef :=
  (brackets arguments).andThen fun as => (mark name as).behindBlanks

theorem readType_succ (fuel : Nat) : readType (fuel + 1) =
    Reader.andThen readName fun name => (behindName (readArguments fuel) name).behindBlanks := by
  funext cs
  unfold behindName
  simp only [readType, mark_eq, readBrackets_eq]
  rfl

/-- What stands behind an argument. -/
def behindArgument (arguments : Reader (List TypeArgument)) (a : TypeArgument) :
    Reader (List TypeArgument) :=
  Reader.onChar ',' (arguments.andThen fun as => Reader.give (a :: as))
    (Reader.onChar '>' (Reader.give [a]) (Reader.fail .commaOrCloseExpected))

theorem readArguments_succ (fuel : Nat) : readArguments (fuel + 1) =
    Reader.andThen (readArgument (readType fuel)) fun a =>
      (behindArgument (readArguments fuel) a).behindBlanks := by
  funext cs
  rw [readArguments]
  rcases hread : readArgument (readType fuel) cs with stop | ⟨a, rest⟩
  · rw [Reader.andThen_of_error hread]
    rfl
  rw [Reader.andThen_of_ok hread, Reader.behindBlanks, behindArgument]
  by_cases hcomma : (skipBlanks rest).head? = some ','
  · obtain ⟨more, hmore⟩ := List.head?_eq_some_iff.mp hcomma
    rw [hmore, Reader.onChar_self]
    simp only [bind, Except.bind, hmore]
    rfl
  rw [Reader.onChar_of_ne hcomma]
  by_cases hclose : (skipBlanks rest).head? = some '>'
  · obtain ⟨more, hmore⟩ := List.head?_eq_some_iff.mp hclose
    rw [hmore, Reader.onChar_self]
    simp only [bind, Except.bind, hmore]
    rfl
  rw [Reader.onChar_of_ne hclose]
  simp only [bind, Except.bind]
  split
  · rename_i hmore
    exact absurd (congrArg List.head? hmore) hcomma
  · rename_i hmore
    exact absurd (congrArg List.head? hmore) hclose
  · rfl

/-- Reads a variance and a type. -/
def projected (type : Reader TypeRef) : Reader TypeArgument :=
  Reader.andThen readVariance fun variance =>
    type.andThen fun t => Reader.give { variance, type := some t }

theorem readArgument_eq (type : Reader TypeRef) : readArgument type =
    (Reader.onChar '*' (Reader.give { variance := .star }) (projected type)).behindBlanks := by
  funext cs
  unfold readArgument Reader.behindBlanks
  by_cases hstar : (skipBlanks cs).head? = some '*'
  · obtain ⟨rest, hrest⟩ := List.head?_eq_some_iff.mp hstar
    rw [hrest, Reader.onChar_self]
    rfl
  · rw [Reader.onChar_of_ne hstar]
    split
    · rename_i hrest
      exact absurd (congrArg List.head? hrest) hstar
    · rfl

/-- The variance that a word is, with what stands behind the blanks that follow it. -/
def projection? (word behind : List Char) : Option Variance :=
  if endsName behind then none else varianceOfWord word

/-- Reads a type of a variance. -/
def typed (type : Reader TypeRef) (variance : Variance) : Reader TypeArgument :=
  type.andThen fun t => Reader.give { variance, type := some t }

theorem readVariance_of_ok {cs word behind : List Char} (h : readWord cs = .ok (word, behind)) :
    readVariance cs = .ok (match projection? word behind with
      | none => (.invariant, cs)
      | some variance => (variance, behind)) := by
  obtain ⟨rest, hname, rfl⟩ := exists_of_readWord_eq_ok h
  unfold readVariance projection?
  simp only [hname, bind, Except.bind, pure, Except.pure]
  cases varianceOfWord word <;> cases endsName (skipBlanks rest) <;> rfl

theorem readVariance_of_error {cs : List Char} {stop : Stop} (h : readWord cs = .error stop) :
    readVariance cs = .error stop := by
  unfold readVariance
  rw [readName_of_readWord_eq_error h]
  rfl

theorem projected_of_ok {type : Reader TypeRef} {cs word behind : List Char}
    (h : readWord cs = .ok (word, behind)) : projected type cs =
      match projection? word behind with
      | none => typed type .invariant cs
      | some variance => typed type variance behind := by
  have hvariance := readVariance_of_ok h
  rw [projected]
  cases hprojection : projection? word behind <;>
    (rw [hprojection] at hvariance; exact Reader.andThen_of_ok hvariance)

theorem projected_of_error {type : Reader TypeRef} {cs : List Char} {stop : Stop}
    (h : readWord cs = .error stop) : projected type cs = .error stop :=
  Reader.andThen_of_error (readVariance_of_error h)

/-- What a type reader leaves stands behind the first word. -/
def LeavesBehindWord (type : Reader TypeRef) : Prop :=
  ∀ {cs word behind}, readWord cs = .ok (word, behind) → (outcome (type cs)).2 <:+ behind

section Projected

variable {n : Nat} {type type' : Reader TypeRef}

theorem leavesEnd_typed (h : LeavesEnd type) (variance : Variance) :
    LeavesEnd (typed type variance) := h.andThen fun _ => .give _

theorem leavesEnd_projected (h : LeavesEnd type) : LeavesEnd (projected type) := by
  intro cs
  rcases hword : readWord cs with stop | ⟨word, behind⟩
  · have hleft := leavesEnd_readWord cs
    rw [hword] at hleft
    rw [projected_of_error hword]
    exact hleft
  · rw [projected_of_ok hword]
    have hleft := leavesEnd_readWord cs
    rw [hword] at hleft
    split
    · exact leavesEnd_typed h _ cs
    · exact (leavesEnd_typed h _ behind).trans hleft

theorem agreeWithin_typed (h : AgreeWithin n type type') (hleaves : LeavesEnd type)
    (variance : Variance) : AgreeWithin n (typed type variance) (typed type' variance) :=
  h.andThen (d := 0) (fun _ => .give _) (fun _ => .give _) hleaves.length_le

theorem LeavesBehindWord.typed (h : LeavesBehindWord type) {variance : Variance}
    {cs word behind : List Char} (hword : readWord cs = .ok (word, behind)) :
    (outcome (typed type variance cs)).2 <:+ behind := by
  have hleft := h hword
  rcases ht : type cs with stop | ⟨t, rest⟩ <;> rw [ht] at hleft
  · rw [TypeRef.typed, Reader.andThen_of_error ht]
    exact hleft
  · rw [TypeRef.typed, Reader.andThen_of_ok ht]
    exact hleft

/-- The word is looked at before the type, which may start with it. As the type goes beyond it, the
word is not more than what the type takes. -/
theorem agreeWithin_projected (h : AgreeWithin n type type') (hleaves : LeavesEnd type)
    (hword : LeavesBehindWord type) : AgreeWithin n (projected type) (projected type') := by
  intro p c r q hp hq r'
  rcases hread : readWord (p ++ c :: r) with ⟨fault, rest⟩ | ⟨word, behind⟩
  · rw [projected_of_error hread] at hq ⊢
    obtain rfl : rest = q ++ c :: r := hq
    rw [projected_of_error ((agreeWithin_readWord n).error hp hread r')]
    rfl
  · have hbehind : q ++ c :: r <:+ behind := by
      rw [← hq, projected_of_ok hread]
      split
      · exact hword.typed hread
      · exact leavesEnd_typed hleaves _ behind
    obtain ⟨q', rfl⟩ := exists_of_suffix hbehind
    have hread' := (agreeWithin_readWord n).ok hp hread r'
    have hsame : projection? word (q' ++ c :: r') = projection? word (q' ++ c :: r) := by
      cases q' <;> rfl
    have hlength := leavesEnd_readWord.length_le hread
    simp only [List.length_append, List.length_cons] at hlength
    rw [projected_of_ok hread] at hq ⊢
    rw [projected_of_ok hread', hsame]
    cases hprojection : projection? word (q' ++ c :: r) with
    | none =>
      rw [hprojection] at hq
      exact agreeWithin_typed h hleaves _ hp hq r'
    | some variance =>
      rw [hprojection] at hq
      exact agreeWithin_typed h hleaves _ (by omega) hq r'

end Projected

/-! ## Whole types -/

theorem leavesEnd_brackets {arguments : Reader (List TypeArgument)} (h : LeavesEnd arguments) :
    LeavesEnd (brackets arguments) :=
  .onChar '<' (LeavesEnd.onChar '>' (.give []) h).behindBlanks (.give [])

theorem leavesEnd_behindName {arguments : Reader (List TypeArgument)} (h : LeavesEnd arguments)
    (name : List Char) : LeavesEnd (behindName arguments name) :=
  (leavesEnd_brackets h).andThen fun _ => (LeavesEnd.onChar '?' (.give _) (.give _)).behindBlanks

theorem leavesEnd_readArgument {type : Reader TypeRef} (h : LeavesEnd type) :
    LeavesEnd (readArgument type) := by
  rw [readArgument_eq]
  exact (LeavesEnd.onChar '*' (.give _) (leavesEnd_projected h)).behindBlanks

theorem leavesEnd_behindArgument {arguments : Reader (List TypeArgument)}
    (h : LeavesEnd arguments) (a : TypeArgument) : LeavesEnd (behindArgument arguments a) :=
  .onChar ',' (h.andThen fun _ => .give _) (.onChar '>' (.give _) (.fail _))

theorem leavesEnd_read (fuel : Nat) :
    LeavesEnd (readType fuel) ∧ LeavesEnd (readArguments fuel) := by
  induction fuel with
  | zero => exact ⟨LeavesEnd.fail .nameExpected, LeavesEnd.fail .nameExpected⟩
  | succ fuel ih =>
    rw [readType_succ, readArguments_succ]
    exact ⟨leavesEnd_readName.andThen fun name => (leavesEnd_behindName ih.2 name).behindBlanks,
      (leavesEnd_readArgument ih.1).andThen fun a => (leavesEnd_behindArgument ih.2 a).behindBlanks⟩

theorem leavesBehindWord_readType (fuel : Nat) : LeavesBehindWord (readType (fuel + 1)) := by
  intro cs word behind h
  obtain ⟨rest, hname, rfl⟩ := exists_of_readWord_eq_ok h
  rw [readType_succ, Reader.andThen_of_ok hname]
  exact leavesEnd_behindName (leavesEnd_read fuel).2 word (skipBlanks rest)

section Agreement

variable {n : Nat} {arguments arguments' : Reader (List TypeArgument)}

theorem agreeWithin_behindName (h : AgreeWithin (n - 1) arguments arguments')
    (hleaves : LeavesEnd arguments) (name : List Char) :
    AgreeWithin n (behindName arguments name) (behindName arguments' name) := by
  have hclose : AgreeWithin (n - 1) (Reader.onChar '>' (Reader.give []) arguments)
      (Reader.onChar '>' (Reader.give []) arguments') := .onChar '>' (.give []) (.give []) h
  have hbrackets : AgreeWithin n (brackets arguments) (brackets arguments') :=
    .onChar '<' (hclose.behindBlanks (.onChar '>' (.give []) hleaves))
      (LeavesEnd.onChar '>' (.give []) hleaves).behindBlanks (.give [])
  have hmark (as : List TypeArgument) : AgreeWithin n (mark name as) (mark name as) :=
    .onChar '?' (.give _) (.give _) (.give _)
  have hmarkLeaves (as : List TypeArgument) : LeavesEnd (mark name as) :=
    .onChar '?' (.give _) (.give _)
  exact hbrackets.andThen (d := 0) (fun as => (hmark as).behindBlanks (hmarkLeaves as))
    (fun as => (hmarkLeaves as).behindBlanks) (leavesEnd_brackets hleaves).length_le

theorem agreeWithin_behindArgument (h : AgreeWithin (n - 1) arguments arguments')
    (hleaves : LeavesEnd arguments) (a : TypeArgument) :
    AgreeWithin n (behindArgument arguments a) (behindArgument arguments' a) :=
  .onChar ',' (h.andThen (d := 0) (fun _ => .give _) (fun _ => .give _) hleaves.length_le)
    (hleaves.andThen fun _ => .give _) (.onChar '>' (.give _) (.give _) (.fail _))

theorem agreeWithin_readArgument {type type' : Reader TypeRef} (h : AgreeWithin n type type')
    (hleaves : LeavesEnd type) (hword : LeavesBehindWord type) :
    AgreeWithin n (readArgument type) (readArgument type') := by
  rw [readArgument_eq, readArgument_eq]
  exact (AgreeWithin.onChar '*' (.give _) (.give _)
    (agreeWithin_projected h hleaves hword)).behindBlanks
      (.onChar '*' (.give _) (leavesEnd_projected hleaves))

/-- With enough fuel for the common start, types and arguments are read the same way. -/
theorem agreeWithin_read (fuel : Nat) : ∀ {fuel' n : Nat},
    (n ≤ fuel → n ≤ fuel' → AgreeWithin n (readType fuel) (readType fuel')) ∧
      (n < fuel → n < fuel' → AgreeWithin n (readArguments fuel) (readArguments fuel')) := by
  induction fuel with
  | zero =>
    intro fuel' n
    refine ⟨fun hn _ => ?_, fun hn _ => absurd hn (Nat.not_lt_zero n)⟩
    rw [Nat.le_zero.mp hn]
    exact .zero
  | succ fuel ih =>
    intro fuel' n
    have harguments {k : Nat} (hk : k ≤ fuel) {fuel'' : Nat} (hk' : k ≤ fuel'') :
        AgreeWithin (k - 1) (readArguments fuel) (readArguments fuel'') := by
      rcases k with _ | k
      · exact .zero
      · exact ih.2 hk hk'
    refine ⟨fun hn hn' => ?_, fun hn hn' => ?_⟩
    · rcases n with _ | n
      · exact .zero
      · obtain ⟨fuel', rfl⟩ := Nat.exists_eq_add_one.mpr (Nat.zero_lt_of_lt hn')
        have hname (name : List Char) : AgreeWithin n (behindName (readArguments fuel) name)
            (behindName (readArguments fuel') name) :=
          agreeWithin_behindName (harguments (by omega) (by omega)) (leavesEnd_read fuel).2 name
        have hleaves (name : List Char) := leavesEnd_behindName (leavesEnd_read fuel).2 name
        rw [readType_succ, readType_succ]
        exact (agreeWithin_readName _).andThen (d := 1)
          (fun name => (hname name).behindBlanks (hleaves name))
          (fun name => (hleaves name).behindBlanks) length_lt_of_readName
    · rcases n with _ | n
      · exact .zero
      · obtain ⟨fuel', rfl⟩ := Nat.exists_eq_add_one.mpr (Nat.zero_lt_of_lt hn')
        have hword : LeavesBehindWord (readType fuel) := by
          obtain ⟨steps, rfl⟩ := Nat.exists_eq_add_one.mpr (by omega : 0 < fuel)
          exact leavesBehindWord_readType steps
        have hleaves := leavesEnd_read fuel
        have hbehind (a : TypeArgument) := agreeWithin_behindArgument (n := n + 1)
          (harguments (Nat.le_of_lt_succ hn) (Nat.le_of_lt_succ hn')) hleaves.2 a
        have hbehindLeaves (a : TypeArgument) := leavesEnd_behindArgument hleaves.2 a
        rw [readArguments_succ, readArguments_succ]
        exact (agreeWithin_readArgument (ih.1 (Nat.le_of_lt_succ hn) (Nat.le_of_lt_succ hn'))
          hleaves.1 hword).andThen (d := 0)
            (fun a => (hbehind a).behindBlanks (hbehindLeaves a))
            (fun a => (hbehindLeaves a).behindBlanks) (leavesEnd_readArgument hleaves.1).length_le

end Agreement

/-- A text that is no type because of a character is none whatever stands behind the character. -/
theorem readWhole_error_of_common {p r : List Char} {c : Char} {fault : Fault}
    (h : readWhole (p ++ c :: r) = .error ⟨fault, c :: r⟩) (r' : List Char) :
    readWhole (p ++ c :: r') = .error ⟨fault, c :: r'⟩ := by
  have hagree : AgreeWithin (p.length + 1) (readType ((p ++ c :: r).length + 1))
      (readType ((p ++ c :: r').length + 1)) := by
    refine (agreeWithin_read _).1 ?_ ?_ <;> simp
  have hp := Nat.lt_succ_self p.length
  unfold readWhole at h ⊢
  rcases hread : readType ((p ++ c :: r).length + 1) (p ++ c :: r) with stop | ⟨t, rest⟩
  · rw [hread] at h
    cases h
    rw [hagree.error (q := []) hp hread r']
    rfl
  · rw [hread] at h
    simp only [bind, Except.bind] at h
    split at h
    · cases h
    · obtain ⟨rfl, hskip⟩ : Fault.trailingInput = fault ∧ skipBlanks rest = c :: r := by
        simpa using h
      obtain ⟨q, rfl⟩ := exists_of_suffix (q := []) (hskip ▸ skipBlanks_suffix rest)
      rw [hagree.ok hp hread r']
      simp only [bind, Except.bind, skipBlanks_common (q := []) hskip r', List.nil_append]

end BoundaryGen.TypeRef
