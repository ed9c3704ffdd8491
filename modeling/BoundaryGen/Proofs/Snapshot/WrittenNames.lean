-- From written names back to classes: a nested class is written behind the class around it with a
-- dollar sign between them. Where names have no dollar signs of their own, a dot for each dollar
-- sign gives the qualified name again, so that the class is found, however deep it is nested.
import Mathlib
import BoundaryGen.Manifest.Binding
import BoundaryGen.Proofs.Snapshot.Qualifier
import BoundaryGen.Proofs.Snapshot.Tables
import BoundaryGen.Source.Build

namespace BoundaryGen

/-! ## Dollar signs -/

/-- A name with a dot in the place of each dollar sign. -/
def dotted (name : String) : String :=
  String.ofList (name.toList.map fun c => if c = '$' then '.' else c)

/-- A name has no dollar sign. -/
def NoDollar (name : String) : Prop := '$' ∉ name.toList

instance : DecidablePred NoDollar := fun _ => inferInstanceAs (Decidable (_ ∉ _))

theorem NoDollar.dotted {name : String} (h : NoDollar name) : dotted name = name := by
  apply String.toList_injective
  rw [BoundaryGen.dotted, String.toList_ofList]
  refine (List.map_congr_left fun c hc => ?_).trans (List.map_id _)
  rw [if_neg]
  · rfl
  · rintro rfl
    exact h hc

theorem dotted_append (a b : String) : dotted (a ++ b) = dotted a ++ dotted b := by
  apply String.toList_injective
  simp [dotted]

theorem noDollar_append {a b : String} : NoDollar (a ++ b) ↔ NoDollar a ∧ NoDollar b := by
  simp [NoDollar, not_or]

namespace Snapshot

variable {s : Snapshot} {name : String}

/-! ## Names and what they mean -/

/-- The name of a scope is shorter than every name inside it. -/
theorem length_lt_qualify (scope : String) (h : name ≠ "") :
    scope.length < (qualify scope name).length := by
  have hpos : 0 < name.length := by
    rw [← String.length_toList, List.length_pos_iff]
    intro hnil
    exact h (String.toList_eq_nil_iff.mp hnil)
  unfold qualify
  split
  · rename_i hempty
    rw [String.isEmpty_iff.mp hempty]
    exact hpos
  · rw [String.length_append, String.length_append]
    omega

theorem WellNumbered.qualifiedName_ne_empty (hw : WellNumbered s) {i : DeclId} {d : Declaration}
    (hd : s.get? i = some d) : d.qualifiedName ≠ "" := by
  have hscope : ∃ scope, d.qualifiedName = qualify scope d.simpleName := by
    rcases hp : d.parent with _ | p
    · exact ⟨_, hw.topLevel hd hp⟩
    · obtain ⟨-, c, -, -, hname⟩ := hw.parent hd hp
      exact ⟨_, hname⟩
  obtain ⟨scope, hname⟩ := hscope
  intro hempty
  have hlt := length_lt_qualify scope (hw.named hd)
  rw [← hname, hempty] at hlt
  simp at hlt

/-- A class is found under its qualified name, though perhaps another one of that name. -/
theorem WellNumbered.exists_findClass (hw : WellNumbered s) {d : Declaration}
    (hd : d ∈ s.declarations) (hc : d.class?.isSome) :
    ∃ i, s.findClass d.qualifiedName = some i := by
  refine Option.ne_none_iff_exists'.mp fun hnone => ?_
  have hother := hw.findClass_eq_none_iff.mp hnone d.id d (hw.get?_id hd)
  exact hother (Declaration.isClassNamed_iff.mpr ⟨hc, rfl⟩)

/-- What a name means: no class, a class at top level, or a class inside another class, whose name
is shorter. -/
inductive Meaning (s : Snapshot) (name : String) : Prop
  | nothing : s.findClass name = none → Meaning s name
  | topLevel {i : DeclId} {d : Declaration} : s.findClass name = some i → s.get? i = some d →
      d.qualifiedName = name → s.parent? i = none → Meaning s name
  | nested {i : DeclId} {d outer : Declaration} : s.findClass name = some i → s.get? i = some d →
      s.parent? i = some outer → outer.class?.isSome →
      name = outer.qualifiedName ++ "." ++ d.simpleName → Meaning s name

theorem WellNumbered.meaning (hw : WellNumbered s) (name : String) : Meaning s name := by
  rcases hfind : s.findClass name with _ | i
  · exact .nothing hfind
  obtain ⟨d, hd, hname⟩ := hw.of_findClass hfind
  obtain ⟨-, hqualified⟩ := Declaration.isClassNamed_iff.mp hname
  rcases hp : d.parent with _ | p
  · have hnone : s.parent? i = none := by simp [parent?, hd, hp]
    exact .topLevel hfind hd hqualified hnone
  · obtain ⟨-, outer, hget, hclass, hinside⟩ := hw.parent hd hp
    have houter : s.parent? i = some outer := by simp [parent?, hd, hp, hget]
    have hne : outer.qualifiedName.isEmpty = false := by
      have := hw.qualifiedName_ne_empty hget
      simpa using this
    refine .nested hfind hd houter hclass ?_
    rw [← hqualified, hinside, qualify, hne]
    rfl

/-! ## Writing a name -/

/-- The steps that write a name: a name of no class is written as it is, a class at top level under
its qualified name, and a class inside another behind the written name of that one. -/
inductive Writes (s : Snapshot) : String → String → Prop
  | unknown {name : String} : s.findClass name = none → Writes s name name
  | topLevel {name : String} {i : DeclId} {d : Declaration} : s.findClass name = some i →
      s.get? i = some d → (∀ outer ∈ s.parent? i, outer.class? = none) →
      Writes s name d.qualifiedName
  | nested {name text : String} {i : DeclId} {d outer : Declaration} :
      s.findClass name = some i → s.get? i = some d → s.parent? i = some outer →
      outer.class?.isSome → Writes s outer.qualifiedName text →
      Writes s name (text ++ "$" ++ d.simpleName)

/-- Every name is written in finitely many steps, as many as its length allows for. -/
theorem writes_qualifierWithin (hw : WellNumbered s) {depth : Nat} (h : name.length < depth) :
    s.Writes name (s.qualifierWithin depth name) := by
  induction depth generalizing name with
  | zero => omega
  | succ depth ih =>
    unfold qualifierWithin
    cases hw.meaning name with
    | nothing hfind =>
      simp only [hfind]
      exact .unknown hfind
    | topLevel hfind hd _ hnone =>
      simp only [hfind, hd, hnone]
      apply Writes.topLevel hfind hd
      intro outer houter
      rw [hnone] at houter
      cases houter
    | nested hfind hd houter hclass hname =>
      simp only [hfind, hd, houter, hclass, if_true]
      apply Writes.nested hfind hd houter hclass
      apply ih
      rw [hname, String.length_append, String.length_append] at h
      have hdot : ".".length = 1 := rfl
      omega

/-- A name is written in one way only. -/
theorem Writes.unique {a b : String} (h : s.Writes name a) (h' : s.Writes name b) : a = b := by
  induction h generalizing b with
  | unknown hfind => cases h' <;> simp_all
  | topLevel hfind hd htop => cases h' <;> simp_all
  | nested hfind hd houter hclass _ ih =>
    cases h' with
    | unknown hfind' => simp_all
    | topLevel hfind' hd' htop' => simp_all
    | nested hfind' hd' houter' _ hwrites =>
      obtain rfl := Option.some.inj (hfind.symm.trans hfind')
      obtain rfl := Option.some.inj (hd.symm.trans hd')
      obtain rfl := Option.some.inj (houter.symm.trans houter')
      rw [ih hwrites]

/-- The steps write the qualifier of a name and nothing else. -/
theorem WellNumbered.writes_iff (hw : WellNumbered s) {text : String} :
    s.Writes name text ↔ text = s.qualifier name := by
  have hself : s.Writes name (s.qualifier name) := writes_qualifierWithin hw (Nat.lt_succ_self _)
  constructor
  · intro h
    exact h.unique hself
  · rintro rfl
    exact hself

/-! ## Reading a written name -/

/-- Dots for dollar signs lead from a written name back to the name. -/
theorem dotted_of_writes (hw : WellNumbered s) {text : String} (h : s.Writes name text)
    (hn : NoDollar name) : dotted text = name := by
  induction h with
  | unknown _ => exact hn.dotted
  | topLevel hfind hd _ =>
    obtain ⟨d, hd', hname⟩ := hw.of_findClass hfind
    obtain rfl := Option.some.inj (hd.symm.trans hd')
    obtain ⟨-, rfl⟩ := Declaration.isClassNamed_iff.mp hname
    exact hn.dotted
  | @nested name text i d outer hfind hd houter _ _ ih =>
    cases hw.meaning name with
    | nothing hfind' =>
      rw [hfind] at hfind'
      cases hfind'
    | topLevel hfind' _ _ hnone =>
      obtain rfl := Option.some.inj (hfind.symm.trans hfind')
      rw [houter] at hnone
      cases hnone
    | nested hfind' hd' houter' _ hname =>
      obtain rfl := Option.some.inj (hfind.symm.trans hfind')
      obtain rfl := Option.some.inj (hd.symm.trans hd')
      obtain rfl := Option.some.inj (houter.symm.trans houter')
      rw [hname, noDollar_append, noDollar_append] at hn
      obtain ⟨⟨houterName, -⟩, hsimple⟩ := hn
      rw [dotted_append, dotted_append, ih houterName, hsimple.dotted, hname]
      rfl

theorem dotted_qualifier (hw : WellNumbered s) (hn : NoDollar name) :
    dotted (s.qualifier name) = name :=
  dotted_of_writes hw (hw.writes_iff.mpr rfl) hn

/-- The written name of a declared class is resolved to its qualified name. -/
theorem resolver_qualifier (hw : WellNumbered s) {d : Declaration} (hd : d ∈ s.declarations)
    (hc : d.class?.isSome) (hn : NoDollar d.qualifiedName) :
    s.resolver (s.qualifier d.qualifiedName) = some (.declared d.qualifiedName) := by
  obtain ⟨i, hfind⟩ := hw.exists_findClass hd hc
  obtain ⟨found, hget, hname⟩ := hw.of_findClass hfind
  have hdotted := dotted_qualifier hw hn
  unfold dotted at hdotted
  unfold resolver
  simp only [hdotted, hfind, hget, Option.bind_eq_bind, Option.bind_some]
  rw [(Declaration.isClassNamed_iff.mp hname).2]
  rfl

/-! ## The law of written names -/

/-- Type texts lead back to the classes of a snapshot, also where several classes share a name.
Every name is written, in finitely many steps and in one way. A well formed type is read back from
its text under the written names. A written name with dots for its dollar signs is the name again
when that has no dollar sign: then it is resolved to the class of the name, and two names are
written differently. -/
theorem type_texts_lead_back_to_the_classes {files : List SourceFile}
    (hs : ofFiles files = .ok s) :
    (∀ name text, s.Writes name text ↔ text = s.qualifier name) ∧
    (∀ t : TypeRef, t.wellFormed = true →
      TypeRef.parse (s.typeText t) = .ok (t.mapNames s.qualifier)) ∧
    (∀ name, NoDollar name → dotted (s.qualifier name) = name) ∧
    (∀ d ∈ s.declarations, d.class?.isSome → NoDollar d.qualifiedName →
      s.resolver (s.qualifier d.qualifiedName) = some (.declared d.qualifiedName)) ∧
    Set.InjOn s.qualifier {name | NoDollar name} := by
  have hw : WellNumbered s := (lists_ofFiles hs).wellNumbered
  refine ⟨fun name text => hw.writes_iff, ?_, fun name => dotted_qualifier hw, ?_, ?_⟩
  · intro t ht
    exact TypeRef.parse_renderWith (keepsNames_qualifier hw) ht
  · intro d hd hc hn
    exact resolver_qualifier hw hd hc hn
  · intro a ha b hb hab
    have hback := congrArg dotted hab
    rwa [dotted_qualifier hw ha, dotted_qualifier hw hb] at hback

/-- A class three levels deep, and behind it a class at top level under the name of the middle
one. -/
def cartFile : SourceFile where
  path := "app/Cart.kt"
  package := "app"
  declarations :=
    [Node.classNamed "Cart" |>.withMember
      (Node.classNamed "Line" |>.withMember (Node.classNamed "Price")),
    Node.classNamed "Cart.Line"]

theorem the_price_is_found_in_the_cart : ∃ s, ofFiles [cartFile] = .ok s ∧
    s.Writes "app.Cart.Line.Price" "app.Cart.Line$Price" ∧
    (∃ t : TypeRef, t.wellFormed = true ∧ s.typeText t = "Map<app.Cart, in app.Cart.Line$Price?>" ∧
      TypeRef.parse (s.typeText t) = .ok (t.mapNames s.qualifier)) ∧
    NoDollar "app.Cart.Line.Price" ∧ dotted "app.Cart.Line$Price" = "app.Cart.Line.Price" ∧
    s.resolver "app.Cart.Line$Price" = some (.declared "app.Cart.Line.Price") ∧
    s.qualifier "app.Cart.Line.Price" ≠ s.qualifier "app.Cart.Line" := by
  let t : TypeRef :=
    ⟨"Map", [⟨.invariant, some { name := "app.Cart" }⟩,
      ⟨.inward, some { name := "app.Cart.Line.Price", nullable := true }⟩], false⟩
  obtain ⟨s, hs, hqualifier, htext, hprice⟩ := exists_ofFiles_singleton cartFile (fun s =>
    s.qualifier "app.Cart.Line.Price" = "app.Cart.Line$Price" ∧
    s.typeText t = "Map<app.Cart, in app.Cart.Line$Price?>" ∧
    ∃ d ∈ s.declarations, d.class?.isSome ∧ d.qualifiedName = "app.Cart.Line.Price")
    (by decide +kernel)
  obtain ⟨hwrites, hparse, hdotted, hresolver, hinj⟩ := type_texts_lead_back_to_the_classes hs
  have hline : NoDollar "app.Cart.Line" := by decide
  have hn : NoDollar "app.Cart.Line.Price" := by decide
  refine ⟨s, hs, (hwrites _ _).mpr hqualifier.symm, ⟨t, ?_, htext, hparse t ?_⟩, hn, ?_, ?_, ?_⟩
  · decide +kernel
  · decide +kernel
  · rw [← hqualifier]
    exact hdotted _ hn
  · obtain ⟨d, hd, hc, hname⟩ := hprice
    have hfound := hresolver d hd hc (hname ▸ hn)
    rwa [hname, hqualifier] at hfound
  · intro hsame
    exact absurd (hinj hn hline hsame) (by decide)

end Snapshot

end BoundaryGen
