-- The grammar of type texts, and the law that the parser accepts it and nothing
-- else. Every rule of the grammar relates a text to what is left behind the
-- part that the rule derives.
import Mathlib
import BoundaryGen.Proofs.Result
import BoundaryGen.Proofs.TypeRef.Readers

namespace BoundaryGen.TypeRef

open Text

/-! ## The grammar -/

/-- What a rule derives. -/
inductive Symbol where
  | type (t : TypeRef)
  /-- The brackets of a type, which may be left out. -/
  | brackets (arguments : List TypeArgument)
  /-- Arguments between brackets, and the closing bracket. -/
  | arguments (arguments : List TypeArgument)
  | argument (argument : TypeArgument)

/-- `Derives symbol text rest` says that `text` up to `rest` is a text of `symbol`. -/
inductive Derives : Symbol → List Char → List Char → Prop
  | plain {w name : List Char} {arguments : List TypeArgument} {r rest : List Char} :
      Blanks w → IsName name r → Derives (.brackets arguments) r rest →
      Derives (.type { name := String.ofList name, arguments }) (w ++ name ++ r) rest
  | nullable {w name : List Char} {arguments : List TypeArgument} {r w' rest : List Char} :
      Blanks w → IsName name r → Derives (.brackets arguments) r (w' ++ '?' :: rest) → Blanks w' →
      Derives (.type { name := String.ofList name, arguments, nullable := true })
        (w ++ name ++ r) rest
  | noBrackets {rest : List Char} : Derives (.brackets []) rest rest
  | emptyBrackets {w w' rest : List Char} : Blanks w → Blanks w' →
      Derives (.brackets []) (w ++ '<' :: w' ++ '>' :: rest) rest
  | inBrackets {w r rest : List Char} {arguments : List TypeArgument} : Blanks w →
      Derives (.arguments arguments) r rest →
      Derives (.brackets arguments) (w ++ '<' :: r) rest
  | last {a : TypeArgument} {text w rest : List Char} :
      Derives (.argument a) text (w ++ '>' :: rest) → Blanks w →
      Derives (.arguments [a]) text rest
  | next {a : TypeArgument} {arguments : List TypeArgument} {text w r rest : List Char} :
      Derives (.argument a) text (w ++ ',' :: r) → Blanks w →
      Derives (.arguments arguments) r rest → Derives (.arguments (a :: arguments)) text rest
  | star {w rest : List Char} : Blanks w →
      Derives (.argument { variance := .star }) (w ++ '*' :: rest) rest
  | invariant {t : TypeRef} {text rest : List Char} : Derives (.type t) text rest →
      Derives (.argument { type := some t }) text rest
  | inward {t : TypeRef} {w w' r rest : List Char} : Blanks w → Blanks w' → w' ≠ [] →
      Derives (.type t) r rest →
      Derives (.argument { variance := .inward, type := some t }) (w ++ ['i', 'n'] ++ w' ++ r) rest
  | outward {t : TypeRef} {w w' r rest : List Char} : Blanks w → Blanks w' → w' ≠ [] →
      Derives (.type t) r rest →
      Derives (.argument { variance := .outward, type := some t })
        (w ++ ['o', 'u', 't'] ++ w' ++ r) rest

/-- The whole text writes the type: behind the type stand only blanks. -/
def Writes (text : List Char) (t : TypeRef) : Prop :=
  ∃ w, Blanks w ∧ Derives (.type t) text w

/-! ## Blanks in front -/

/-- Blanks in front of what is derived do not matter. -/
theorem Derives.behind_blanks {symbol : Symbol} {text rest : List Char}
    (h : Derives symbol text rest) {w : List Char} (hw : Blanks w)
    (hs : ∀ as, symbol ≠ .brackets as) : Derives symbol (w ++ text) rest := by
  induction h with
  | plain hb hn hr _ =>
    simpa only [List.append_assoc] using Derives.plain (blanks_append hw hb) hn hr
  | nullable hb hn hr hb' _ =>
    simpa only [List.append_assoc] using Derives.nullable (blanks_append hw hb) hn hr hb'
  | noBrackets => exact absurd rfl (hs _)
  | emptyBrackets => exact absurd rfl (hs _)
  | inBrackets => exact absurd rfl (hs _)
  | last _ hb ih => exact .last (ih (by simp)) hb
  | next _ hb hr ih _ => exact .next (ih (by simp)) hb hr
  | star hb => simpa only [List.append_assoc] using Derives.star (blanks_append hw hb)
  | invariant _ ih => exact .invariant (ih (by simp))
  | inward hb hb' hne ht _ =>
    simpa only [List.append_assoc] using Derives.inward (blanks_append hw hb) hb' hne ht
  | outward hb hb' hne ht _ =>
    simpa only [List.append_assoc] using Derives.outward (blanks_append hw hb) hb' hne ht

/-! ## What is read is derived -/

/-- What reads arguments reads only derived ones. -/
def SoundArguments (read : List Char → Except Stop (List TypeArgument × List Char)) : Prop :=
  ∀ cs as rest, read cs = .ok (as, rest) → Derives (.arguments as) cs rest

/-- What reads types reads only derived ones. It may take blanks behind them as well. -/
def SoundType (read : List Char → Except Stop (TypeRef × List Char)) : Prop :=
  ∀ cs t rest, read cs = .ok (t, rest) → ∃ w, Blanks w ∧ Derives (.type t) cs (w ++ rest)

theorem derives_of_readBrackets {read : List Char → Except Stop (List TypeArgument × List Char)}
    (hread : SoundArguments read) {cs rest : List Char} {as : List TypeArgument}
    (h : readBrackets read cs = .ok (as, rest)) :
    ∃ w, Blanks w ∧ Derives (.brackets as) cs (w ++ rest) := by
  obtain ⟨w, hw, hcs⟩ := exists_skipBlanks cs
  unfold readBrackets at h
  split at h
  · rename_i inner hopen
    obtain ⟨w', hw', hinner⟩ := exists_skipBlanks inner
    refine ⟨[], by simp [Blanks], ?_⟩
    rw [hcs, hopen]
    split at h
    · rename_i hclose
      cases h
      rw [hinner, hclose]
      simpa only [List.append_assoc, List.nil_append, List.cons_append] using
        Derives.emptyBrackets hw hw'
    · have := (hread _ _ _ h).behind_blanks hw' (by simp)
      rw [← hinner] at this
      exact Derives.inBrackets hw this
  · cases h
    refine ⟨w, hw, ?_⟩
    rw [← hcs]
    exact .noBrackets

theorem derives_of_readType_step {fuel : Nat} (hread : SoundArguments (readArguments fuel)) :
    SoundType (readType (fuel + 1)) := by
  intro cs t rest h
  rw [readType] at h
  obtain ⟨⟨name, r⟩, hname, h⟩ := bind_eq_ok h
  dsimp only at h
  obtain ⟨⟨as, r'⟩, hbrackets, h⟩ := bind_eq_ok h
  cases h
  obtain ⟨w, hw, hn, rfl⟩ := isName_of_readName hname
  obtain ⟨w', hw', hb⟩ := derives_of_readBrackets hread hbrackets
  obtain ⟨w'', hw'', hr'⟩ := exists_skipBlanks r'
  unfold readNullable
  split
  · rename_i rest hmark
    refine ⟨[], by simp [Blanks], Derives.nullable hw hn ?_ (blanks_append hw' hw'')⟩
    rw [hr', hmark] at hb
    simpa only [List.append_assoc, List.nil_append] using hb
  · refine ⟨w' ++ w'', blanks_append hw' hw'', Derives.plain hw hn ?_⟩
    rw [hr'] at hb
    simpa only [List.append_assoc] using hb

/-- A type starts with a name. -/
theorem Derives.type_starts {t : TypeRef} {text rest : List Char}
    (h : Derives (.type t) text rest) :
    ∃ c, (skipBlanks text).head? = some c ∧ isNameChar c = true := by
  have hname : ∀ {w name r : List Char}, Blanks w → IsName name r →
      ∃ c, (skipBlanks (w ++ name ++ r)).head? = some c ∧ isNameChar c = true := by
    intro w name r hw hn
    rw [List.append_assoc, skipBlanks_append hw, skipBlanks_name hn]
    rcases name with _ | ⟨c, name⟩
    · exact absurd rfl hn.nonempty
    · exact ⟨c, rfl, hn.chars c (by simp)⟩
  cases h with
  | plain hw hn _ => exact hname hw hn
  | nullable hw hn _ _ => exact hname hw hn

theorem varianceOfWord_eq_some {word : List Char} {variance : Variance}
    (h : varianceOfWord word = some variance) :
    (word = ['i', 'n'] ∧ variance = .inward) ∨ (word = ['o', 'u', 't'] ∧ variance = .outward) := by
  unfold varianceOfWord at h
  split at h
  · cases h
    exact Or.inl ⟨‹_›, rfl⟩
  · split at h
    · cases h
      exact Or.inr ⟨‹_›, rfl⟩
    · cases h

/-- Either no variance is read, or a word and the blanks behind it. -/
theorem readVariance_eq_ok {cs r : List Char} {variance : Variance}
    (h : readVariance cs = .ok (variance, r)) :
    (variance = .invariant ∧ r = cs) ∨
      ∃ word r', readName cs = .ok (word, r') ∧ varianceOfWord word = some variance ∧
        r = skipBlanks r' := by
  unfold readVariance at h
  obtain ⟨⟨word, r'⟩, hword, h⟩ := bind_eq_ok h
  dsimp only at h
  split at h
  · cases h
    exact Or.inl ⟨rfl, rfl⟩
  · rename_i v hv
    split at h
    · cases h
      exact Or.inl ⟨rfl, rfl⟩
    · cases h
      exact Or.inr ⟨word, r', hword, hv, rfl⟩

theorem derives_of_variance {t : TypeRef} {w word r rest : List Char} {variance : Variance}
    (hv : varianceOfWord word = some variance) (hw : Blanks w) (hn : IsName word r)
    (hd : Derives (.type t) (skipBlanks r) rest) :
    Derives (.argument { variance, type := some t }) (w ++ word ++ r) rest := by
  obtain ⟨w', hw', hr⟩ := exists_skipBlanks r
  -- Without a blank the name of the type would have been part of the word.
  have hne : w' ≠ [] := by
    rintro rfl
    obtain ⟨c, hc, hchar⟩ := hd.type_starts
    rw [skipBlanks_skipBlanks, ← List.nil_append (skipBlanks r), ← hr] at hc
    rw [hn.maximal c hc] at hchar
    cases hchar
  rw [hr, ← List.append_assoc]
  rcases varianceOfWord_eq_some hv with ⟨rfl, rfl⟩ | ⟨rfl, rfl⟩
  · exact .inward hw hw' hne hd
  · exact .outward hw hw' hne hd

theorem derives_of_readArgument {read : List Char → Except Stop (TypeRef × List Char)}
    (hread : SoundType read) {cs rest : List Char} {a : TypeArgument}
    (h : readArgument read cs = .ok (a, rest)) :
    ∃ w, Blanks w ∧ Derives (.argument a) cs (w ++ rest) := by
  obtain ⟨w, hw, hcs⟩ := exists_skipBlanks cs
  unfold readArgument at h
  split at h
  · rename_i r hstar
    cases h
    refine ⟨[], by simp [Blanks], ?_⟩
    rw [hcs, hstar]
    exact .star hw
  · obtain ⟨⟨variance, r⟩, hvariance, h⟩ := bind_eq_ok h
    dsimp only at h
    obtain ⟨⟨t, r'⟩, ht, h⟩ := bind_eq_ok h
    cases h
    obtain ⟨w', hw', hd⟩ := hread _ _ _ ht
    refine ⟨w', hw', ?_⟩
    rw [hcs]
    refine Derives.behind_blanks ?_ hw (by simp)
    rcases readVariance_eq_ok hvariance with ⟨rfl, rfl⟩ | ⟨word, r'', hword, hv, rfl⟩
    · exact .invariant hd
    · obtain ⟨w'', hw'', hn, hskip⟩ := isName_of_readName hword
      rw [hskip]
      exact derives_of_variance hv hw'' hn hd

theorem derives_of_readArguments_step {fuel : Nat} (htype : SoundType (readType fuel))
    (hargs : SoundArguments (readArguments fuel)) : SoundArguments (readArguments (fuel + 1)) := by
  intro cs as rest h
  rw [readArguments] at h
  obtain ⟨⟨a, r⟩, ha, h⟩ := bind_eq_ok h
  dsimp only at h
  obtain ⟨w, hw, hd⟩ := derives_of_readArgument htype ha
  obtain ⟨w', hw', hr⟩ := exists_skipBlanks r
  split at h
  · rename_i r' hcomma
    obtain ⟨⟨as', r''⟩, has, h⟩ := bind_eq_ok h
    cases h
    rw [hr, hcomma, ← List.append_assoc] at hd
    exact .next hd (blanks_append hw hw') (hargs _ _ _ has)
  · rename_i r' hclose
    cases h
    rw [hr, hclose, ← List.append_assoc] at hd
    exact .last hd (blanks_append hw hw')
  · cases h

theorem sound_read (fuel : Nat) :
    SoundType (readType fuel) ∧ SoundArguments (readArguments fuel) := by
  induction fuel with
  | zero =>
    constructor
    · intro cs t rest h
      cases h
    · intro cs as rest h
      cases h
  | succ fuel ih => exact ⟨derives_of_readType_step ih.2, derives_of_readArguments_step ih.1 ih.2⟩

/-! ## What is derived is read -/

/-- What may follow a type in an input, blanks apart: an end, a comma or a closing bracket. -/
def Ends (rest : List Char) : Prop := ∀ c, (skipBlanks rest).head? = some c → c = ',' ∨ c = '>'

theorem ends_blanks {w : List Char} (h : Blanks w) : Ends w := by
  intro c hc
  rw [skipBlanks_blanks h] at hc
  cases hc

theorem ends_cons {w rest : List Char} {c : Char} (h : Blanks w) (hc : c = ',' ∨ c = '>') :
    Ends (w ++ c :: rest) := by
  have hblank : isBlank c = false := by rcases hc with rfl | rfl <;> decide
  intro c' hc'
  rw [skipBlanks_append_cons h hblank] at hc'
  cases hc'
  exact hc

/-- The derived argument, or type, is read up to blanks. -/
def Read {α : Type} (result : Except Stop (α × List Char)) (a : α) (rest : List Char) : Prop :=
  ∃ r, result = .ok (a, r) ∧ skipBlanks r = skipBlanks rest

/-- What the parser does on a text of a symbol. The fuel counts the characters and, for arguments,
the step from the arguments to the first of them. -/
def Reads : Symbol → List Char → List Char → Prop
  | .type t, text, rest => ∀ fuel, text.length < fuel → Ends rest → Read (readType fuel text) t rest
  | .brackets as, text, rest => ∀ fuel, text.length < fuel →
    (skipBlanks rest).head? ≠ some '<' → Read (readBrackets (readArguments fuel) text) as rest
  | .arguments as, text, rest => ∀ fuel, text.length + 1 < fuel →
    readArguments fuel text = .ok (as, rest)
  | .argument a, text, rest => ∀ fuel, text.length < fuel → Ends rest →
    Read (readArgument (readType fuel) text) a rest

/-- Arguments start with a star or a name. -/
theorem Derives.argument_starts {a : TypeArgument} {text rest : List Char}
    (h : Derives (.argument a) text rest) :
    ∃ c, (skipBlanks text).head? = some c ∧ (c = '*' ∨ isNameChar c = true) := by
  cases h with
  | star hw =>
    rw [skipBlanks_append_cons hw (by decide)]
    exact ⟨'*', rfl, Or.inl rfl⟩
  | invariant ht =>
    obtain ⟨c, hc, hn⟩ := ht.type_starts
    exact ⟨c, hc, Or.inr hn⟩
  | inward hw =>
    rw [List.append_assoc, List.append_assoc, skipBlanks_append hw]
    exact ⟨'i', rfl, Or.inr (by decide)⟩
  | outward hw =>
    rw [List.append_assoc, List.append_assoc, skipBlanks_append hw]
    exact ⟨'o', rfl, Or.inr (by decide)⟩

theorem Derives.arguments_start {as : List TypeArgument} {text rest : List Char}
    (h : Derives (.arguments as) text rest) :
    ∃ c, (skipBlanks text).head? = some c ∧ (c = '*' ∨ isNameChar c = true) := by
  cases h with
  | last ha _ => exact ha.argument_starts
  | next ha _ _ => exact ha.argument_starts

/-- Either brackets open behind the blanks, or nothing is derived. -/
theorem Derives.brackets_open {as : List TypeArgument} {text rest : List Char}
    (h : Derives (.brackets as) text rest) :
    (∃ r, skipBlanks text = '<' :: r) ∨ (as = [] ∧ text = rest) := by
  cases h with
  | noBrackets => exact Or.inr ⟨rfl, rfl⟩
  | emptyBrackets hw _ =>
    left
    rw [List.append_assoc, skipBlanks_append hw]
    exact ⟨_, rfl⟩
  | inBrackets hw _ =>
    left
    rw [skipBlanks_append hw]
    exact ⟨_, rfl⟩

/-- Only brackets may derive nothing. -/
theorem Derives.length_le {symbol : Symbol} {text rest : List Char}
    (h : Derives symbol text rest) :
    rest.length ≤ text.length ∧
      ((∀ as, symbol ≠ .brackets as) → rest.length < text.length) := by
  induction h with
  | plain _ hn _ ih =>
    have := List.length_pos_iff.mpr hn.nonempty
    simp only [List.length_append] at ih ⊢
    omega
  | nullable _ hn _ _ ih =>
    have := List.length_pos_iff.mpr hn.nonempty
    simp only [List.length_append, List.length_cons] at ih ⊢
    omega
  | noBrackets => simp
  | emptyBrackets =>
    simp only [List.length_append, List.length_cons]
    omega
  | inBrackets _ _ ih =>
    simp only [List.length_append, List.length_cons]
    omega
  | last _ _ ih =>
    simp only [List.length_append, List.length_cons] at ih ⊢
    omega
  | next _ _ _ ih ih' =>
    simp only [List.length_append, List.length_cons] at ih ⊢
    omega
  | star =>
    simp only [List.length_append, List.length_cons]
    omega
  | invariant _ ih => exact ⟨ih.1, fun _ => ih.2 (by simp)⟩
  | inward _ _ _ _ ih =>
    simp only [List.length_append, List.length_cons, List.length_nil]
    omega
  | outward _ _ _ _ ih =>
    simp only [List.length_append, List.length_cons, List.length_nil]
    omega

theorem Derives.argument_length_lt {a : TypeArgument} {text rest : List Char}
    (h : Derives (.argument a) text rest) : rest.length < text.length :=
  h.length_le.2 (by simp)

theorem readName_skipBlanks (cs : List Char) : readName (skipBlanks cs) = readName cs := by
  unfold readName
  rw [skipBlanks_skipBlanks]

theorem readType_skipBlanks {fuel : Nat} (h : 0 < fuel) (cs : List Char) :
    readType fuel (skipBlanks cs) = readType fuel cs := by
  obtain ⟨fuel, rfl⟩ := Nat.exists_eq_add_one.mpr h
  rw [readType, readType, readName_skipBlanks]

theorem readArguments_skipBlanks {fuel : Nat} (h : 0 < fuel) (cs : List Char) :
    readArguments fuel (skipBlanks cs) = readArguments fuel cs := by
  obtain ⟨fuel, rfl⟩ := Nat.exists_eq_add_one.mpr h
  rw [readArguments, readArguments, readArgument, readArgument, skipBlanks_skipBlanks]

theorem readNullable_of_mark {cs rest : List Char} (h : skipBlanks cs = '?' :: rest) :
    readNullable cs = (true, rest) := by
  simp [readNullable, h]

theorem readNullable_of_no_mark {cs : List Char} (h : (skipBlanks cs).head? ≠ some '?') :
    readNullable cs = (false, skipBlanks cs) := by
  unfold readNullable
  split
  · rename_i heq
    rw [heq] at h
    exact absurd rfl h
  · rfl

theorem Ends.head_ne {rest : List Char} (h : Ends rest) {c : Char} (hc : c ≠ ',') (hc' : c ≠ '>') :
    (skipBlanks rest).head? ≠ some c := by
  intro heq
  rcases h c heq with h | h
  · exact hc h
  · exact hc' h

theorem reads_plain {w name r rest : List Char} {as : List TypeArgument} (hw : Blanks w)
    (hn : IsName name r) (hb : Reads (.brackets as) r rest) :
    Reads (.type { name := String.ofList name, arguments := as }) (w ++ name ++ r) rest := by
  intro fuel hfuel hends
  obtain ⟨fuel, rfl⟩ := Nat.exists_eq_add_one.mpr (Nat.zero_lt_of_lt hfuel)
  have hlen := List.length_pos_iff.mpr hn.nonempty
  simp only [List.length_append] at hfuel
  obtain ⟨r', hr', hskip⟩ := hb fuel (by omega) (hends.head_ne (by decide) (by decide))
  have hmark : (skipBlanks r').head? ≠ some '?' := by
    rw [hskip]
    exact hends.head_ne (by decide) (by decide)
  refine ⟨skipBlanks r', ?_, by rw [skipBlanks_skipBlanks, hskip]⟩
  rw [readType, readName_of_isName hw hn]
  simp only [bind, Except.bind, hr', readNullable_of_no_mark hmark]
  rfl

theorem reads_nullable {w w' name r rest : List Char} {as : List TypeArgument} (hw : Blanks w)
    (hn : IsName name r) (hb : Reads (.brackets as) r (w' ++ '?' :: rest)) (hw' : Blanks w') :
    Reads (.type { name := String.ofList name, arguments := as, nullable := true })
      (w ++ name ++ r) rest := by
  intro fuel hfuel _
  obtain ⟨fuel, rfl⟩ := Nat.exists_eq_add_one.mpr (Nat.zero_lt_of_lt hfuel)
  have hlen := List.length_pos_iff.mpr hn.nonempty
  simp only [List.length_append] at hfuel
  have hmark : skipBlanks (w' ++ '?' :: rest) = '?' :: rest :=
    skipBlanks_append_cons hw' (by decide) rest
  obtain ⟨r', hr', hskip⟩ := hb fuel (by omega) (by simp [hmark])
  rw [hmark] at hskip
  refine ⟨rest, ?_, rfl⟩
  rw [readType, readName_of_isName hw hn]
  simp only [bind, Except.bind, hr', readNullable_of_mark hskip]
  rfl

theorem reads_noBrackets (rest : List Char) : Reads (.brackets []) rest rest := by
  intro fuel _ hopen
  refine ⟨skipBlanks rest, ?_, skipBlanks_skipBlanks rest⟩
  unfold readBrackets
  split
  · rename_i heq
    rw [heq] at hopen
    exact absurd rfl hopen
  · rfl

theorem reads_emptyBrackets {w w' : List Char} (rest : List Char) (hw : Blanks w)
    (hw' : Blanks w') : Reads (.brackets []) (w ++ '<' :: w' ++ '>' :: rest) rest := by
  intro fuel _ _
  have hopen : skipBlanks (w ++ '<' :: w' ++ '>' :: rest) = '<' :: (w' ++ '>' :: rest) := by
    rw [List.append_assoc]
    exact skipBlanks_append_cons hw (by decide) _
  have hclose : skipBlanks (w' ++ '>' :: rest) = '>' :: rest :=
    skipBlanks_append_cons hw' (by decide) rest
  exact ⟨rest, by simp only [readBrackets, hopen, hclose], rfl⟩

theorem reads_inBrackets {w r rest : List Char} {as : List TypeArgument} (hw : Blanks w)
    (hd : Derives (.arguments as) r rest) (hr : Reads (.arguments as) r rest) :
    Reads (.brackets as) (w ++ '<' :: r) rest := by
  intro fuel hfuel _
  simp only [List.length_append, List.length_cons] at hfuel
  have hopen : skipBlanks (w ++ '<' :: r) = '<' :: r :=
    skipBlanks_append_cons hw (by decide) r
  have hread : readArguments fuel (skipBlanks r) = .ok (as, rest) := by
    rw [readArguments_skipBlanks (by omega)]
    exact hr fuel (by omega)
  refine ⟨rest, ?_, rfl⟩
  unfold readBrackets
  simp only [hopen]
  split
  · rename_i heq
    obtain ⟨c, hc, hstart⟩ := hd.arguments_start
    rw [heq] at hc
    cases hc
    exact absurd hstart (by decide +kernel)
  · exact hread

theorem reads_star {w : List Char} (rest : List Char) (hw : Blanks w) :
    Reads (.argument { variance := .star }) (w ++ '*' :: rest) rest := by
  intro fuel _ _
  have hstar : skipBlanks (w ++ '*' :: rest) = '*' :: rest :=
    skipBlanks_append_cons hw (by decide) rest
  exact ⟨rest, by simp only [readArgument, hstar], rfl⟩

/-- Behind the name of a type that ends in its place, the type goes on or the argument ends. -/
theorem Derives.type_name {t : TypeRef} {text rest : List Char}
    (h : Derives (.type t) text rest) (hends : Ends rest) :
    ∃ w name r, Blanks w ∧ IsName name r ∧ text = w ++ name ++ r ∧
      endsName (skipBlanks r) = true := by
  have hfollow : ∀ {as : List TypeArgument} {r rest' : List Char},
      Derives (.brackets as) r rest' → endsName (skipBlanks rest') = true →
      endsName (skipBlanks r) = true := by
    intro as r rest' hb hr
    rcases hb.brackets_open with ⟨r', hopen⟩ | ⟨-, rfl⟩
    · rw [hopen]
      rfl
    · exact hr
  cases h with
  | plain hw hn hb =>
    refine ⟨_, _, _, hw, hn, rfl, hfollow hb ?_⟩
    rcases hskip : skipBlanks rest with _ | ⟨c, r⟩
    · rfl
    · rcases hends c (by rw [hskip]; rfl) with rfl | rfl <;> rfl
  | nullable hw hn hb hw' =>
    refine ⟨_, _, _, hw, hn, rfl, hfollow hb ?_⟩
    rw [skipBlanks_append_cons hw' (by decide)]
    rfl

theorem readVariance_of_endsName {cs name r : List Char} (hname : readName cs = .ok (name, r))
    (hends : endsName (skipBlanks r) = true) : readVariance cs = .ok (.invariant, cs) := by
  unfold readVariance
  simp only [hname, bind, Except.bind, hends]
  split <;> rfl

/-- Behind the star apart, an argument is a variance and a type. -/
theorem readArgument_of_readVariance {read : List Char → Except Stop (TypeRef × List Char)}
    {text cs r rest : List Char} {variance : Variance} {t : TypeRef}
    (hstar : (skipBlanks text).head? ≠ some '*')
    (hv : readVariance (skipBlanks text) = .ok (variance, cs)) (ht : Read (read cs) t rest)
    (hr : r = text) : Read (readArgument read r) { variance, type := some t } rest := by
  subst hr
  obtain ⟨r', hread, hskip⟩ := ht
  refine ⟨r', ?_, hskip⟩
  unfold readArgument
  split
  · rename_i heq
    rw [heq] at hstar
    exact absurd rfl hstar
  · simp only [hv, bind, Except.bind, hread]
    rfl

theorem reads_invariant {t : TypeRef} {text rest : List Char} (hd : Derives (.type t) text rest)
    (ht : Reads (.type t) text rest) : Reads (.argument { type := some t }) text rest := by
  intro fuel hfuel hends
  obtain ⟨c, hc, hchar⟩ := hd.type_starts
  obtain ⟨w, name, r, hw, hn, htext, hr⟩ := hd.type_name hends
  have hname : readName (skipBlanks text) = .ok (name, r) := by
    rw [readName_skipBlanks, htext]
    exact readName_of_isName hw hn
  refine readArgument_of_readVariance ?_ (readVariance_of_endsName hname hr) ?_ rfl
  · rw [hc]
    rintro ⟨⟩
    exact absurd hchar (by decide)
  · rw [readType_skipBlanks (by omega)]
    exact ht fuel hfuel hends

theorem reads_variance {t : TypeRef} {w word w' r rest : List Char} {variance : Variance}
    (hv : varianceOfWord word = some variance) (hw : Blanks w) (hw' : Blanks w') (hne : w' ≠ [])
    (hd : Derives (.type t) r rest) (ht : Reads (.type t) r rest) :
    Reads (.argument { variance, type := some t }) (w ++ word ++ w' ++ r) rest := by
  intro fuel hfuel hends
  have hn : IsName word (w' ++ r) := by
    refine ⟨?_, ?_, ?_⟩
    · rcases varianceOfWord_eq_some hv with ⟨rfl, -⟩ | ⟨rfl, -⟩ <;> simp
    · rcases varianceOfWord_eq_some hv with ⟨rfl, -⟩ | ⟨rfl, -⟩ <;>
        simp only [List.forall_mem_cons, List.not_mem_nil, false_implies, implies_true, and_true]
      · exact ⟨by decide, by decide⟩
      · exact ⟨by decide, by decide, by decide⟩
    · intro c hc
      rcases w' with _ | ⟨b, w'⟩
      · exact absurd rfl hne
      · cases hc
        exact isNameChar_of_isBlank (hw' _ (by simp))
  rw [List.append_assoc]
  have hskip : skipBlanks (w ++ word ++ (w' ++ r)) = word ++ (w' ++ r) := by
    rw [List.append_assoc, skipBlanks_append hw, skipBlanks_name hn]
  have hname : readName (skipBlanks (w ++ word ++ (w' ++ r))) = .ok (word, w' ++ r) := by
    rw [readName_skipBlanks]
    exact readName_of_isName hw hn
  obtain ⟨c, hc, hchar⟩ := hd.type_starts
  have hgoes : endsName (skipBlanks r) = false := by
    rcases hr : skipBlanks r with _ | ⟨c', r'⟩
    · rw [hr] at hc
      cases hc
    · rw [hr] at hc
      cases hc
      unfold endsName
      simp only [Bool.or_eq_false_iff, decide_eq_false_iff_not]
      refine ⟨⟨⟨?_, ?_⟩, ?_⟩, ?_⟩ <;> rintro rfl <;> exact absurd hchar (by decide)
  have hread : readVariance (skipBlanks (w ++ word ++ (w' ++ r))) =
      .ok (variance, skipBlanks r) := by
    unfold readVariance
    simp only [hname, bind, Except.bind, hv, skipBlanks_append hw', hgoes]
    rfl
  refine readArgument_of_readVariance ?_ hread ?_ rfl
  · rw [hskip]
    rcases varianceOfWord_eq_some hv with ⟨rfl, -⟩ | ⟨rfl, -⟩ <;> simp
  · simp only [List.length_append] at hfuel
    rw [readType_skipBlanks (by omega)]
    exact ht fuel (by omega) hends

theorem reads_last {a : TypeArgument} {text w rest : List Char} (hw : Blanks w)
    (ha : Reads (.argument a) text (w ++ '>' :: rest)) : Reads (.arguments [a]) text rest := by
  intro fuel hfuel
  obtain ⟨fuel, rfl⟩ := Nat.exists_eq_add_one.mpr (Nat.zero_lt_of_lt hfuel)
  obtain ⟨r, hread, hskip⟩ := ha fuel (by omega) (ends_cons hw (Or.inr rfl))
  rw [skipBlanks_append_cons hw (by decide)] at hskip
  rw [readArguments]
  simp only [hread, bind, Except.bind, hskip]
  rfl

theorem reads_next {a : TypeArgument} {as : List TypeArgument} {text w r rest : List Char}
    (hw : Blanks w) (hd : Derives (.argument a) text (w ++ ',' :: r))
    (ha : Reads (.argument a) text (w ++ ',' :: r)) (has : Reads (.arguments as) r rest) :
    Reads (.arguments (a :: as)) text rest := by
  intro fuel hfuel
  obtain ⟨fuel, rfl⟩ := Nat.exists_eq_add_one.mpr (Nat.zero_lt_of_lt hfuel)
  have hlen := hd.argument_length_lt
  simp only [List.length_append, List.length_cons] at hlen
  obtain ⟨r', hread, hskip⟩ := ha fuel (by omega) (ends_cons hw (Or.inl rfl))
  rw [skipBlanks_append_cons hw (by decide)] at hskip
  rw [readArguments]
  simp only [hread, bind, Except.bind, hskip, has fuel (by omega)]
  rfl

/-- Every derived text is read, with enough fuel. -/
theorem reads_of_derives {symbol : Symbol} {text rest : List Char}
    (h : Derives symbol text rest) : Reads symbol text rest := by
  induction h with
  | plain hw hn _ ih => exact reads_plain hw hn ih
  | nullable hw hn _ hw' ih => exact reads_nullable hw hn ih hw'
  | noBrackets => exact reads_noBrackets _
  | emptyBrackets hw hw' => exact reads_emptyBrackets _ hw hw'
  | inBrackets hw hd ih => exact reads_inBrackets hw hd ih
  | last _ hw ih => exact reads_last hw ih
  | next hd hw _ ih ih' => exact reads_next hw hd ih ih'
  | star hw => exact reads_star _ hw
  | invariant hd ih => exact reads_invariant hd ih
  | inward hw hw' hne hd ih => exact reads_variance rfl hw hw' hne hd ih
  | outward hw hw' hne hd ih => exact reads_variance rfl hw hw' hne hd ih

/-! ## The law of the parser -/

theorem readWhole_of_writes {text : List Char} {t : TypeRef} (h : Writes text t) :
    readWhole text = .ok t := by
  obtain ⟨w, hw, hd⟩ := h
  obtain ⟨r, hr, hskip⟩ := reads_of_derives hd (text.length + 1) (by omega) (ends_blanks hw)
  rw [skipBlanks_blanks hw] at hskip
  unfold readWhole
  simp only [hr, bind, Except.bind, hskip]
  rfl

theorem writes_of_readWhole {text : List Char} {t : TypeRef} (h : readWhole text = .ok t) :
    Writes text t := by
  unfold readWhole at h
  obtain ⟨⟨t', r⟩, hr, h⟩ := bind_eq_ok h
  dsimp only at h
  obtain ⟨w, hw, hd⟩ := (sound_read _).1 _ _ _ hr
  obtain ⟨w', hw', hskip⟩ := exists_skipBlanks r
  split at h
  · rename_i heq
    cases h
    rw [heq, List.append_nil] at hskip
    exact ⟨w ++ r, blanks_append hw (hskip ▸ hw'), hd⟩
  · cases h

theorem parse_eq_ok_iff_readWhole {s : String} {t : TypeRef} :
    parse s = .ok t ↔ readWhole s.toList = .ok t := by
  unfold parse
  rcases h : readWhole s.toList with stop | t' <;> simp [h]

/-- The parser gives a type exactly for the texts that the grammar derives it from, and an error
for every other text. -/
theorem the_parser_accepts_exactly_the_grammar (s : String) :
    (∀ t, parse s = .ok t ↔ Writes s.toList t) ∧
      ((∃ e, parse s = .error e) ↔ ∀ t, ¬ Writes s.toList t) := by
  have hok : ∀ t, parse s = .ok t ↔ Writes s.toList t := fun t => by
    rw [parse_eq_ok_iff_readWhole]
    exact ⟨writes_of_readWhole, readWhole_of_writes⟩
  refine ⟨hok, ?_, ?_⟩
  · rintro ⟨e, he⟩ t ht
    rw [(hok t).mpr ht] at he
    cases he
  · intro hnone
    rcases h : parse s with e | t
    · exact ⟨e, rfl⟩
    · exact absurd ((hok t).mp h) (hnone t)

end BoundaryGen.TypeRef
