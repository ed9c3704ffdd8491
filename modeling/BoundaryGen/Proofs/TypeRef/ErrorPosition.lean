-- The error for a text that is no type stands at the first character that no type can have there.
-- What stands before it is the start of some type, and with it no text is a type.
import Mathlib
import BoundaryGen.Proofs.TypeRef.Lookahead
import BoundaryGen.Proofs.TypeRef.Rendering

namespace BoundaryGen.TypeRef

open Text

/-! ## What stands behind -/

theorem endsName_append {w rest : List Char} (hw : Blanks w) (h : EndsName rest) :
    EndsName (w ++ rest) := by
  rcases w with _ | ⟨b, w⟩
  · exact h
  · exact endsName_cons (isNameChar_of_isBlank (hw b List.mem_cons_self)) _

theorem endsName_blanks {w : List Char} (hw : Blanks w) : EndsName w := by
  have hnil : EndsName [] := nofun
  have h := endsName_append hw hnil
  rwa [List.append_nil] at h

theorem IsName.in_front_of {name rest k : List Char} (h : IsName name rest) (hk : EndsName k) :
    IsName name k := ⟨h.nonempty, h.chars, hk⟩

theorem IsName.replace {name p rest k : List Char} (h : IsName name (p ++ rest))
    (hk : EndsName k) : IsName name (p ++ k) := by
  rcases p with _ | ⟨x, p⟩
  · exact h.in_front_of hk
  · exact h.in_front_of h.maximal

/-- What is derived is derived in front of any other text that ends names. -/
theorem Derives.replace {symbol : Symbol} {text rest : List Char} (h : Derives symbol text rest) :
    ∃ p, text = p ++ rest ∧ ∀ k, EndsName k → Derives symbol (p ++ k) k := by
  induction h with
  | @plain w name _ _ _ hw hn _ ih =>
    obtain ⟨p, rfl, hp⟩ := ih
    refine ⟨w ++ name ++ p, by simp, fun k hk => ?_⟩
    rw [List.append_assoc _ p k]
    exact .plain hw (hn.replace hk) (hp k hk)
  | @nullable w name _ _ w' _ hw hn _ hw' ih =>
    obtain ⟨p, rfl, hp⟩ := ih
    refine ⟨w ++ name ++ (p ++ (w' ++ ['?'])), by simp, fun k hk => ?_⟩
    have hmark : EndsName (w' ++ '?' :: k) := endsName_append hw' (endsName_cons (by decide) k)
    have := Derives.nullable hw (hn.replace hmark) (hp _ hmark) hw'
    simpa using this
  | noBrackets => exact ⟨[], rfl, fun k _ => .noBrackets⟩
  | @emptyBrackets w w' rest hw hw' =>
    refine ⟨w ++ '<' :: w' ++ ['>'], by simp, fun k _ => ?_⟩
    have hbrackets : Derives (.brackets []) (w ++ '<' :: w' ++ '>' :: k) k :=
      .emptyBrackets hw hw'
    simpa using hbrackets
  | @inBrackets w _ _ _ hw _ ih =>
    obtain ⟨p, rfl, hp⟩ := ih
    refine ⟨w ++ '<' :: p, by simp, fun k hk => ?_⟩
    simpa using Derives.inBrackets hw (hp k hk)
  | @last _ _ w _ _ hw ih =>
    obtain ⟨p, rfl, hp⟩ := ih
    refine ⟨p ++ (w ++ ['>']), by simp, fun k _ => ?_⟩
    have hclose := hp (w ++ '>' :: k) (endsName_append hw (endsName_cons (by decide) k))
    simpa using Derives.last hclose hw
  | @next _ _ _ w _ _ _ hw _ ih ih' =>
    obtain ⟨p, rfl, hp⟩ := ih
    obtain ⟨p', rfl, hp'⟩ := ih'
    refine ⟨p ++ (w ++ ',' :: p'), by simp, fun k hk => ?_⟩
    have hcomma := hp (w ++ ',' :: (p' ++ k))
      (endsName_append hw (endsName_cons (by decide) (p' ++ k)))
    simpa using Derives.next hcomma hw (hp' k hk)
  | @star w _ hw =>
    refine ⟨w ++ ['*'], by simp, fun k _ => ?_⟩
    have hstar : Derives (.argument { variance := .star }) (w ++ '*' :: k) k := .star hw
    simpa using hstar
  | invariant _ ih =>
    obtain ⟨p, rfl, hp⟩ := ih
    exact ⟨p, rfl, fun k hk => .invariant (hp k hk)⟩
  | @inward _ w w' _ _ hw hw' hne _ ih =>
    obtain ⟨p, rfl, hp⟩ := ih
    refine ⟨w ++ ['i', 'n'] ++ w' ++ p, by simp, fun k hk => ?_⟩
    simpa using Derives.inward hw hw' hne (hp k hk)
  | @outward _ w w' _ _ hw hw' hne _ ih =>
    obtain ⟨p, rfl, hp⟩ := ih
    refine ⟨w ++ ['o', 'u', 't'] ++ w' ++ p, by simp, fun k hk => ?_⟩
    simpa using Derives.outward hw hw' hne (hp k hk)

/-! ## What was read before an error -/

/-- Where a reader stops, what it took is the start of a text of the symbol. -/
def Completes {α : Type} (symbol : α → Symbol) (read : Reader α) : Prop :=
  ∀ {cs stop}, read cs = .error stop → ∃ taken missing a, cs = taken ++ stop.rest ∧
    ∀ k, EndsName k → Derives (symbol a) (taken ++ missing ++ k) k

theorem derives_plainName {w name k : List Char} (hw : Blanks w) (hn : IsName name k) :
    Derives (.type { name := String.ofList name }) (w ++ name ++ k) k := .plain hw hn .noBrackets

theorem isName_letter {k : List Char} (hk : EndsName k) : IsName ['A'] k where
  nonempty := List.cons_ne_nil _ _
  chars := by
    simp only [List.mem_singleton, forall_eq]
    decide
  maximal := hk

namespace Reader

variable {α β : Type} {read taken other : Reader α} {next : α → Reader β} {cs : List Char}
  {stop : Stop}

theorem exists_of_andThen_eq_error (h : read.andThen next cs = .error stop) :
    read cs = .error stop ∨ ∃ a rest, read cs = .ok (a, rest) ∧ next a rest = .error stop := by
  rcases hread : read cs with stop' | ⟨a, rest⟩
  · rw [andThen_of_error hread] at h
    cases h
    exact Or.inl rfl
  · rw [andThen_of_ok hread] at h
    exact Or.inr ⟨a, rest, rfl, h⟩

theorem exists_of_onChar_eq_error {x : Char} (h : onChar x taken other cs = .error stop) :
    (∃ rest, cs = x :: rest ∧ taken rest = .error stop) ∨ other cs = .error stop := by
  by_cases hcs : cs.head? = some x
  · obtain ⟨rest, rfl⟩ := List.head?_eq_some_iff.mp hcs
    exact Or.inl ⟨rest, rfl, (Reader.onChar_self _ _ _ rest).symm.trans h⟩
  · rw [onChar_of_ne hcs] at h
    exact Or.inr h

end Reader

theorem rest_of_readName_eq_error {cs : List Char} {stop : Stop} (h : readName cs = .error stop) :
    stop.rest = skipBlanks cs := by
  unfold readName at h
  simp only at h
  split at h
  · cases h
    rfl
  · cases h

theorem completes_readName_stop {cs : List Char} {stop : Stop} (h : readName cs = .error stop) :
    ∃ taken missing t, cs = taken ++ stop.rest ∧
      ∀ k, EndsName k → Derives (.type t) (taken ++ missing ++ k) k := by
  obtain ⟨w, hw, hcs⟩ := exists_skipBlanks cs
  rw [rest_of_readName_eq_error h]
  exact ⟨w, ['A'], _, hcs, fun k hk => derives_plainName hw (isName_letter hk)⟩

theorem exists_of_brackets_eq_error {arguments : Reader (List TypeArgument)} {cs : List Char}
    {stop : Stop} (h : brackets arguments cs = .error stop) :
    ∃ inner, cs = '<' :: inner ∧ arguments (skipBlanks inner) = .error stop := by
  unfold brackets at h
  rcases Reader.exists_of_onChar_eq_error h with ⟨inner, hcs, hinner⟩ | hnone
  · unfold Reader.behindBlanks at hinner
    rcases Reader.exists_of_onChar_eq_error hinner with ⟨rest, -, hclose⟩ | hinner
    · cases hclose
    · exact ⟨inner, hcs, hinner⟩
  · cases hnone

theorem exists_of_behindName_eq_error {arguments : Reader (List TypeArgument)} {name cs : List Char}
    {stop : Stop} (h : behindName arguments name cs = .error stop) :
    ∃ inner, cs = '<' :: inner ∧ arguments (skipBlanks inner) = .error stop := by
  unfold behindName at h
  rcases Reader.exists_of_andThen_eq_error h with h | ⟨as, rest, -, h⟩
  · exact exists_of_brackets_eq_error h
  · rw [mark_eq] at h
    cases h

theorem completes_readType_step {fuel : Nat} (h : Completes .arguments (readArguments fuel)) :
    Completes .type (readType (fuel + 1)) := by
  intro cs stop hstop
  rw [readType_succ] at hstop
  rcases Reader.exists_of_andThen_eq_error hstop with hname | ⟨name, rest, hname, hstop⟩
  · exact completes_readName_stop hname
  · obtain ⟨inner, hopen, hinner⟩ := exists_of_behindName_eq_error hstop
    obtain ⟨taken, missing, as, htaken, hderives⟩ := h hinner
    obtain ⟨w, hw, hn, rfl⟩ := isName_of_readName hname
    obtain ⟨w', hw', hrest⟩ := exists_skipBlanks rest
    obtain ⟨w'', hw'', hblanks⟩ := exists_skipBlanks inner
    rw [hopen] at hrest
    have hderives' : ∀ k, EndsName k → Derives
        (.type { name := String.ofList name, arguments := as })
        (w ++ name ++ (w' ++ '<' :: (w'' ++ (taken ++ missing ++ k)))) k := fun k hk =>
      .plain hw (hn.in_front_of (endsName_append hw' (endsName_cons (by decide) _)))
        (.inBrackets hw' ((hderives k hk).behind_blanks hw'' (by simp)))
    refine ⟨w ++ name ++ (w' ++ '<' :: (w'' ++ taken)), missing,
      { name := String.ofList name, arguments := as }, ?_, fun k hk => ?_⟩
    · rw [hrest, hblanks, htaken]
      simp
    · simpa using hderives' k hk

theorem isBlank_of_skipBlanks_eq_cons {cs rest : List Char} {c : Char}
    (h : skipBlanks cs = c :: rest) : isBlank c = false := by
  have hhead := List.head?_dropWhile_not isBlank cs
  rw [← skipBlanks, h] at hhead
  simpa using hhead

/-- A word that stands for a variance has a type behind it only behind a blank. -/
theorem completes_typed {type : Reader TypeRef} (h : Completes .type type) {w word rest : List Char}
    {variance : Variance} {stop : Stop} (hw : Blanks w) (hn : IsName word rest)
    (hv : varianceOfWord word = some variance) (hstop : type (skipBlanks rest) = .error stop) :
    ∃ taken missing a, w ++ word ++ rest = taken ++ stop.rest ∧
      ∀ k, EndsName k → Derives (.argument a) (taken ++ missing ++ k) k := by
  obtain ⟨taken, missing, t, htaken, hderives⟩ := h hstop
  obtain ⟨w', hw', hrest⟩ := exists_skipBlanks rest
  by_cases hne : w' = []
  · rw [hne, List.nil_append] at hrest
    -- Without a blank no type can start behind the word, so the word is a type itself.
    have hnone : taken = [] := by
      rcases taken with _ | ⟨c, taken⟩
      · rfl
      · obtain ⟨x, hx, hchar⟩ := (hderives [] nofun).type_starts
        have hblank := isBlank_of_skipBlanks_eq_cons htaken
        rw [List.cons_append, List.cons_append, skipBlanks_cons_of_not_blank hblank] at hx
        cases hx
        rw [hn.maximal c (by rw [hrest, htaken]; rfl)] at hchar
        cases hchar
    rw [hnone, List.nil_append, ← hrest] at htaken
    refine ⟨w ++ word, [], { type := some { name := String.ofList word } }, ?_, fun k hk => ?_⟩
    · rw [htaken]
    · rw [List.append_nil]
      exact .invariant (derives_plainName hw (hn.in_front_of hk))
  · refine ⟨w ++ word ++ (w' ++ taken), missing, { variance, type := some t }, ?_, fun k hk => ?_⟩
    · rw [hrest, htaken]
      simp
    · have hargument : Derives (.argument { variance, type := some t })
          (w ++ word ++ w' ++ (taken ++ missing ++ k)) k := by
        rcases varianceOfWord_eq_some hv with ⟨rfl, rfl⟩ | ⟨rfl, rfl⟩
        · exact .inward hw hw' hne (hderives k hk)
        · exact .outward hw hw' hne (hderives k hk)
      simpa using hargument

theorem exists_of_typed_eq_error {type : Reader TypeRef} {variance : Variance} {cs : List Char}
    {stop : Stop} (h : typed type variance cs = .error stop) : type cs = .error stop := by
  unfold typed at h
  rcases Reader.exists_of_andThen_eq_error h with h | ⟨t, rest, -, hgive⟩
  · exact h
  · cases hgive

theorem completes_projected {type : Reader TypeRef} (h : Completes .type type) :
    Completes .argument (projected type) := by
  intro cs stop hstop
  have hinvariant (hplain : readName cs = .error stop ∨ type cs = .error stop) :
      ∃ taken missing a, cs = taken ++ stop.rest ∧
        ∀ k, EndsName k → Derives (.argument a) (taken ++ missing ++ k) k := by
    obtain ⟨taken, missing, t, htaken, hderives⟩ := hplain.elim completes_readName_stop h
    exact ⟨taken, missing, { type := some t }, htaken, fun k hk => .invariant (hderives k hk)⟩
  rcases hword : readWord cs with stop' | ⟨word, behind⟩
  · rw [projected_of_error hword] at hstop
    cases hstop
    exact hinvariant (Or.inl (readName_of_readWord_eq_error hword))
  · rw [projected_of_ok hword] at hstop
    cases hprojection : projection? word behind with
    | none =>
      rw [hprojection] at hstop
      exact hinvariant (Or.inr (exists_of_typed_eq_error hstop))
    | some variance =>
      rw [hprojection] at hstop
      obtain ⟨rest, hname, rfl⟩ := exists_of_readWord_eq_ok hword
      obtain ⟨w, hw, hn, rfl⟩ := isName_of_readName hname
      have hv : varianceOfWord word = some variance := by
        unfold projection? at hprojection
        split at hprojection
        · cases hprojection
        · exact hprojection
      exact completes_typed h hw hn hv (exists_of_typed_eq_error hstop)

theorem completes_readArgument {type : Reader TypeRef} (h : Completes .type type) :
    Completes .argument (readArgument type) := by
  intro cs stop hstop
  rw [readArgument_eq] at hstop
  unfold Reader.behindBlanks at hstop
  rcases Reader.exists_of_onChar_eq_error hstop with ⟨rest, -, hstar⟩ | hstop
  · cases hstar
  · obtain ⟨taken, missing, a, htaken, hderives⟩ := completes_projected h hstop
    obtain ⟨w, hw, hcs⟩ := exists_skipBlanks cs
    refine ⟨w ++ taken, missing, a, ?_, fun k hk => ?_⟩
    · rw [List.append_assoc, ← htaken]
      exact hcs
    · simpa using (hderives k hk).behind_blanks hw (by simp)

theorem completes_readArguments_step {fuel : Nat} (htype : Completes .type (readType fuel))
    (h : Completes .arguments (readArguments fuel)) :
    Completes .arguments (readArguments (fuel + 1)) := by
  intro cs stop hstop
  rw [readArguments_succ] at hstop
  rcases Reader.exists_of_andThen_eq_error hstop with hargument | ⟨a, rest, hargument, hbehind⟩
  · obtain ⟨taken, missing, a, htaken, hderives⟩ := completes_readArgument htype hargument
    refine ⟨taken, missing ++ ['>'], [a], htaken, fun k _ => ?_⟩
    have hclose := hderives ('>' :: k) (endsName_cons (by decide) k)
    simpa using Derives.last hclose blanks_nil
  · -- The argument is derived in front of a comma and in front of the bracket that closes.
    obtain ⟨w, hw, hderives⟩ := derives_of_readArgument (sound_read fuel).1 hargument
    obtain ⟨p, rfl, hp⟩ := hderives.replace
    obtain ⟨w', hw', hrest⟩ := exists_skipBlanks rest
    have hblanks := blanks_append hw hw'
    unfold Reader.behindBlanks behindArgument at hbehind
    rcases Reader.exists_of_onChar_eq_error hbehind with ⟨r, hcomma, hnext⟩ | hbehind
    · have hnext : readArguments fuel r = .error stop := by
        rcases Reader.exists_of_andThen_eq_error hnext with hnext | ⟨as, r', -, hgive⟩
        · exact hnext
        · cases hgive
      obtain ⟨taken, missing, as, htaken, hmore⟩ := h hnext
      refine ⟨p ++ (w ++ w' ++ ',' :: taken), missing, a :: as, ?_, fun k hk => ?_⟩
      · rw [hrest, hcomma, htaken]
        simp
      · have hcomma := hp (w ++ w' ++ ',' :: (taken ++ missing ++ k))
          (endsName_append hblanks (endsName_cons (by decide) _))
        simpa using Derives.next hcomma hblanks (hmore k hk)
    · rcases Reader.exists_of_onChar_eq_error hbehind with ⟨r, -, hclose⟩ | hfail
      · cases hclose
      · cases hfail
        refine ⟨p ++ (w ++ w'), ['>'], [a], ?_, fun k hk => ?_⟩
        · conv_lhs => rw [hrest]
          simp
        · have hclose := hp (w ++ w' ++ '>' :: k)
            (endsName_append hblanks (endsName_cons (by decide) k))
          simpa using Derives.last hclose hblanks

theorem completes_read (fuel : Nat) :
    Completes .type (readType fuel) ∧ Completes .arguments (readArguments fuel) := by
  induction fuel with
  | zero =>
    refine ⟨fun {cs stop} hstop => ?_, fun {cs stop} hstop => ?_⟩
    · cases hstop
      exact ⟨[], ['A'], _, rfl, fun k hk => derives_plainName blanks_nil (isName_letter hk)⟩
    · cases hstop
      refine ⟨[], ['A', '>'], [{ type := some { name := String.ofList ['A'] } }], rfl,
        fun k _ => ?_⟩
      have hclose : EndsName ('>' :: k) := endsName_cons (by decide) k
      have hletter : Derives (.type { name := String.ofList ['A'] }) ('A' :: '>' :: k) ('>' :: k) :=
        derives_plainName blanks_nil (isName_letter hclose)
      exact .last (w := []) (.invariant hletter) blanks_nil
  | succ fuel ih => exact ⟨completes_readType_step ih.2, completes_readArguments_step ih.1 ih.2⟩

/-- The text before an error is the start of a text that writes a type. -/
theorem exists_writes_of_readWhole_eq_error {cs : List Char} {stop : Stop}
    (h : readWhole cs = .error stop) :
    ∃ taken missing t, cs = taken ++ stop.rest ∧ Writes (taken ++ missing) t := by
  unfold readWhole at h
  rcases hread : readType (cs.length + 1) cs with stop' | ⟨t, rest⟩
  · rw [hread] at h
    cases h
    obtain ⟨taken, missing, t, htaken, hderives⟩ := (completes_read _).1 hread
    refine ⟨taken, missing, t, htaken, [], blanks_nil, ?_⟩
    simpa using hderives [] nofun
  · rw [hread] at h
    simp only [bind, Except.bind] at h
    split at h
    · cases h
    · cases h
      obtain ⟨w, hw, hderives⟩ := (sound_read _).1 _ _ _ hread
      obtain ⟨p, hp, hreplace⟩ := hderives.replace
      obtain ⟨w', hw', hrest⟩ := exists_skipBlanks rest
      have hblanks := blanks_append hw hw'
      refine ⟨p ++ (w ++ w'), [], t, ?_, w ++ w', hblanks, ?_⟩
      · conv_lhs => rw [hp, hrest]
        simp
      · simpa using hreplace (w ++ w') (endsName_blanks hblanks)

/-! ## The law of error positions -/

theorem exists_of_parse_eq_error {s : String} {e : ParseError} (h : parse s = .error e) :
    ∃ stop, readWhole s.toList = .error stop ∧
      e.position = s.toList.length - stop.rest.length := by
  unfold parse at h
  simp only at h
  split at h
  · cases h
  · rename_i stop hstop
    cases h
    exact ⟨stop, hstop, rfl⟩

/-- The error for a text that is no type stands in the text or at its end. What stands before it is
the start of a type. And when a character stands there, no type starts with the text up to the
character. -/
theorem type_errors_stand_at_the_first_impossible_character {s : String} {e : ParseError}
    (h : parse s = .error e) :
    e.position ≤ s.length ∧
      (∃ s' t, s.toList.take e.position <+: s'.toList ∧ parse s' = .ok t) ∧
      (e.position < s.length → ∀ s', s.toList.take (e.position + 1) <+: s'.toList →
        ∀ t, parse s' ≠ .ok t) := by
  obtain ⟨⟨fault, rest⟩, hstop, hposition⟩ := exists_of_parse_eq_error h
  obtain ⟨taken, missing, t, htaken, hwrites⟩ := exists_writes_of_readWhole_eq_error hstop
  dsimp only at hposition htaken
  have hposition : e.position = taken.length := by
    rw [hposition, htaken, List.length_append, Nat.add_sub_cancel]
  rw [hposition, ← String.length_toList, htaken]
  refine ⟨?_, ⟨String.ofList (taken ++ missing), t, ?_, ?_⟩, fun hlt s' hs' t' ht' => ?_⟩
  · rw [List.length_append]
    exact Nat.le_add_right _ _
  · rw [List.take_left, String.toList_ofList]
    exact List.prefix_append taken missing
  · rw [parse_eq_ok_iff_readWhole, String.toList_ofList]
    exact readWhole_of_writes hwrites
  · rcases rest with _ | ⟨c, rest⟩
    · rw [List.append_nil] at hlt
      exact absurd hlt (Nat.lt_irrefl _)
    · rw [List.take_append, Nat.add_sub_cancel_left, List.take_of_length_le (Nat.le_succ _)] at hs'
      obtain ⟨rest', hrest'⟩ := hs'
      rw [htaken] at hstop
      have hcommon := readWhole_error_of_common hstop rest'
      rw [parse_eq_ok_iff_readWhole, ← hrest'] at ht'
      simp only [List.take_succ_cons, List.take_zero, List.append_assoc, List.cons_append,
        List.nil_append] at ht'
      rw [hcommon] at ht'
      cases ht'

/-- The word in front of a star promises a type, so the star is impossible behind it. -/
theorem no_star_behind_a_variance :
    (∃ e, parse "A<in *>" = .error e ∧ e.position = 5) ∧
      (∃ s' t, "A<in ".toList <+: s'.toList ∧ parse s' = .ok t) ∧
      ∀ s', "A<in *".toList <+: s'.toList → ∀ t, parse s' ≠ .ok t := by
  have hread : ∃ e, parse "A<in *>" = .error e ∧ e.position = 5 :=
    ⟨⟨.nameExpected, 5, "A<in *>"⟩, by decide +kernel, rfl⟩
  obtain ⟨e, he, hposition⟩ := hread
  have h := type_errors_stand_at_the_first_impossible_character he
  rw [hposition] at h
  exact ⟨⟨e, he, hposition⟩, h.2.1, h.2.2 (by decide)⟩

end BoundaryGen.TypeRef
