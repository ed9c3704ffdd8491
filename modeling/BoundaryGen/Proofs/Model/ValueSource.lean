-- Where the info and the data for a retriever come from. The places are tried in a fixed order:
-- the value that the function returns, the returned pair, a method of the model, a function of an
-- object inside the model. Of several functions in one place the first in the source counts.
import Mathlib
import BoundaryGen.Model.Retriever
import BoundaryGen.Proofs.Model.Functions
import BoundaryGen.Source.Build

namespace BoundaryGen

/-! ## The first that exists -/

/-- What is of the first kind that anything is of, or the last resort when there is nothing of any
kind. -/
def FirstOf {α : Type} (lastResort : α) : List (α → Prop) → α → Prop
  | [], a => a = lastResort
  | kind :: kinds, a => kind a ∨ (∀ b, ¬ kind b) ∧ FirstOf lastResort kinds a

/-- An option holds the one thing of a kind, and nothing when there is none. -/
def Holds {α : Type} (option : Option α) (kind : α → Prop) : Prop :=
  ∀ a, option = some a ↔ kind a

/-- Options that are tried one after the other find the first that exists. -/
theorem firstOf_iff {α : Type} {options : List (Option α)} {kinds : List (α → Prop)}
    (h : List.Forall₂ Holds options kinds) (lastResort a : α) :
    (options.foldr Option.or none).getD lastResort = a ↔ FirstOf lastResort kinds a := by
  induction h with
  | nil => exact eq_comm
  | @cons option kind options kinds hfirst _ ih =>
    unfold FirstOf
    cases option with
    | none =>
      have hnothing : ∀ b, ¬ kind b := by
        intro b hb
        cases (hfirst b).mpr hb
      rw [List.foldr_cons, Option.none_or, ih]
      simp only [hnothing, not_false_eq_true, implies_true, true_and, false_or]
    | some b =>
      have hkind : kind b := (hfirst b).mp rfl
      rw [List.foldr_cons, Option.some_or, Option.getD_some]
      constructor
      · rintro rfl
        exact Or.inl hkind
      · rintro (ha | ⟨hnothing, -⟩)
        · exact Option.some.inj ((hfirst a).mpr ha)
        · exact absurd hkind (hnothing b)

namespace Snapshot

/-! ## Wishes -/

/-- A value that a retriever is to be handed. -/
structure Wish where
  /-- The annotation of the functions that may provide it. -/
  annotation : String
  /-- The element of a returned pair that may be it. -/
  element : Nat
  /-- The types that it may have. -/
  Fits : TypeRef → Prop

/-- Info has exactly the type that the retriever wants. -/
def infoWish (config : Config) (wanted : TypeRef) : Wish where
  annotation := config.annotations.retrieveInfo
  element := 0
  Fits type := type = wanted

/-- Data has any type that serves as retriever data. -/
def dataWish (s : Snapshot) (config : Config) : Wish where
  annotation := config.annotations.retrieveData
  element := 1
  Fits type := s.isAssignable config.retrieverDataType type

/-- The class of a retriever is declared, and the first argument of its first super type is the
type of the info that it wants. -/
def WantsInfo (s : Snapshot) (retriever wanted : TypeRef) : Prop :=
  ∃ d shape super, s.classNamed retriever.name = some (d, shape) ∧
    shape.superTypes.head? = some super ∧ super.argument? 0 = some wanted

/-- A declaration stands directly in a class that stands directly in the model. -/
def StandsBelow (s : Snapshot) (model : DeclId) (d : Declaration) : Prop :=
  ∃ outer ∈ s.declarations, d.parent = some outer.id ∧ outer.parent = some model

namespace Wish

variable (w : Wish)

/-! ## Kinds of sources -/

/-- The function returns the value. -/
def ReturnedBy (function : Declaration) (v : ValueSource) : Prop :=
  ∃ type, returnType? function = some type ∧ w.Fits type ∧ v = .returned type

/-- The function returns a pair with the value in it. -/
def InPairOf (config : Config) (function : Declaration) (v : ValueSource) : Prop :=
  ∃ pair type, returnType? function = some pair ∧ pair.name = config.pairType ∧
    pair.argument? w.element = some type ∧ w.Fits type ∧ v = .inPair type

/-- A declared function with the annotation returns a type that fits. -/
def Provides (s : Snapshot) (d : Declaration) (type : TypeRef) : Prop :=
  d ∈ s.declarations ∧ 0 < d.timesMarked w.annotation ∧ returnType? d = some type ∧ w.Fits type

/-- A function in a place provides a type, and no function in this place that stands before it in
the source provides any. -/
def ProvidesFirst (s : Snapshot) (InPlace : Declaration → Prop) (d : Declaration)
    (type : TypeRef) : Prop :=
  w.Provides s d type ∧ InPlace d ∧
    ∀ d' type', w.Provides s d' type' → InPlace d' → d.sourceKey ≤ d'.sourceKey

/-- A method of the model provides the value, for an intent. -/
def FromMethod (s : Snapshot) (model : DeclId) (site : Site) (v : ValueSource) : Prop :=
  site = .intent ∧ ∃ d type, w.ProvidesFirst s (fun d => d.parent = some model) d type ∧
    v = .method d.id d.simpleName type

/-- A function of a class directly inside the model provides the value. -/
def FromCompanion (s : Snapshot) (model : DeclId) (v : ValueSource) : Prop :=
  ∃ d type, w.ProvidesFirst s (s.StandsBelow model) d type ∧
    v = .companion d.id d.simpleName type

/-- The kinds of sources, in the order in which they are tried. -/
def kinds (s : Snapshot) (config : Config) (function : Declaration) (model : DeclId)
    (site : Site) : List (ValueSource → Prop) :=
  [w.ReturnedBy function, w.InPairOf config function, w.FromMethod s model site,
    w.FromCompanion s model]

end Wish

variable {s : Snapshot} {es : List SourceEntry} {config : Config} {w : Wish} {fits : TypeRef → Bool}
variable {function d : Declaration} {model : DeclId} {type : TypeRef}

/-! ## The first provider -/

/-- Providers are in the order of the source. -/
def InOrder (s : Snapshot) (providers : List Declaration) : Prop :=
  (∀ d ∈ providers, d ∈ s.declarations) ∧
    providers.Pairwise fun d d' => d.sourceKey ≤ d'.sourceKey

theorem firstProvider_eq_none_iff {providers : List Declaration} :
    firstProvider fits providers = none ↔
      ∀ d ∈ providers, ∀ type, returnType? d = some type → fits type = false := by
  unfold firstProvider
  rw [List.findSome?_eq_none_iff]
  refine forall₂_congr fun d _ => ?_
  rcases returnType? d with _ | type <;> simp

theorem sourceKey_le_of_firstProvider {providers : List Declaration} (h : s.InOrder providers)
    (hfirst : firstProvider fits providers = some (d, type)) :
    d ∈ providers ∧ returnType? d = some type ∧ fits type = true ∧
      ∀ d' ∈ providers, ∀ type', returnType? d' = some type' → fits type' = true →
        d.sourceKey ≤ d'.sourceKey := by
  unfold firstProvider at hfirst
  obtain ⟨before, found, after, rfl, hfound, hbefore⟩ := List.findSome?_eq_some_iff.mp hfirst
  split at hfound
  · rename_i type₀ hreturn
    split at hfound
    · rename_i hfits
      cases hfound
      refine ⟨by simp, hreturn, hfits, ?_⟩
      intro d' hd' type' hreturn' hfits'
      rcases List.mem_append.mp hd' with hd' | hd'
      · have hskipped := hbefore d' hd'
        simp only [hreturn', hfits', if_true, reduceCtorEq] at hskipped
      · rcases List.mem_cons.mp hd' with rfl | hd'
        · exact le_refl _
        · have hafter := (List.pairwise_append.mp h.2).2.1
          exact (List.pairwise_cons.mp hafter).1 d' hd'
    · cases hfound
  · cases hfound

/-- The provider that is taken is the first one in the source. -/
theorem firstProvider_eq_some_iff (hw : WellNumbered s) {providers : List Declaration}
    (h : s.InOrder providers) :
    firstProvider fits providers = some (d, type) ↔
      d ∈ providers ∧ returnType? d = some type ∧ fits type = true ∧
        ∀ d' ∈ providers, ∀ type', returnType? d' = some type' → fits type' = true →
          d.sourceKey ≤ d'.sourceKey := by
  constructor
  · exact sourceKey_le_of_firstProvider h
  · rintro ⟨hd, hreturn, hfits, hfirst⟩
    rcases hfound : firstProvider fits providers with _ | ⟨d', type'⟩
    · rw [firstProvider_eq_none_iff.mp hfound d hd type hreturn] at hfits
      cases hfits
    · obtain ⟨hd', hreturn', hfits', hfirst'⟩ := sourceKey_le_of_firstProvider h hfound
      have hid : d'.id = d.id := Declaration.id_eq_of_sourceKey_eq <| le_antisymm
        (hfirst' d hd type hreturn hfits) (hfirst d' hd' type' hreturn' hfits')
      obtain rfl := hw.eq_of_id_eq (h.1 d' hd') (h.1 d hd) hid
      rw [hreturn'] at hreturn
      cases hreturn
      rfl

/-! ## Providers in a place -/

/-- The functions with an annotation that stand in a place. -/
def providersIn (s : Snapshot) (name : String) (InPlace : Declaration → Prop)
    [DecidablePred InPlace] : List Declaration :=
  (s.functionsAnnotated name).filterMap fun (d, _) => if InPlace d then some d else none

section Place

variable {name : String} {InPlace : Declaration → Prop} [DecidablePred InPlace]

theorem Lists.mem_providersIn (h : Lists s es) : d ∈ s.providersIn name InPlace ↔
    d ∈ s.declarations ∧ d.function?.isSome ∧ 0 < d.timesMarked name ∧ InPlace d := by
  unfold providersIn
  rw [List.mem_filterMap]
  constructor
  · rintro ⟨⟨d', f⟩, hmem, hpick⟩
    simp only [Option.ite_none_right_eq_some, Option.some.injEq] at hpick
    obtain ⟨hplace, rfl⟩ := hpick
    obtain ⟨hd, hf, hmarked⟩ := h.mem_functionsAnnotated.mp hmem
    exact ⟨hd, Option.isSome_of_eq_some hf, hmarked, hplace⟩
  · rintro ⟨hd, hf, hmarked, hplace⟩
    obtain ⟨f, hf⟩ := Option.isSome_iff_exists.mp hf
    exact ⟨(d, f), h.mem_functionsAnnotated.mpr ⟨hd, hf, hmarked⟩, if_pos hplace⟩

theorem Lists.inOrder_providersIn (h : Lists s es) : s.InOrder (s.providersIn name InPlace) := by
  constructor
  · intro d hd
    exact (h.mem_providersIn.mp hd).1
  · have hids : (s.providersIn name InPlace).Pairwise fun d d' => s.NoLater d.id d'.id := by
      apply h.pairwise_filterMap_functionsAnnotated Declaration.id
      intro d f d' hpick
      simp only [Option.ite_none_right_eq_some, Option.some.injEq] at hpick
      rw [hpick.2]
    refine hids.imp_of_mem fun hd hd' hle => (h.wellNumbered.noLater_iff ?_ ?_).mp hle
    · exact (h.mem_providersIn.mp hd).1
    · exact (h.mem_providersIn.mp hd').1

/-- A function provides a type in a place exactly when it is found there with this type. -/
theorem Lists.provides_iff (h : Lists s es) (hfits : ∀ t, fits t = true ↔ w.Fits t) :
    w.Provides s d type ∧ InPlace d ↔
      d ∈ s.providersIn w.annotation InPlace ∧ returnType? d = some type ∧ fits type = true := by
  have hfunction : returnType? d = some type → d.function?.isSome := by
    intro hreturn
    obtain ⟨f, hf, -⟩ := Option.bind_eq_some_iff.mp hreturn
    exact Option.isSome_of_eq_some hf
  rw [h.mem_providersIn, hfits]
  unfold Wish.Provides
  tauto

/-- The provider that is taken in a place is the one that provides first. -/
theorem Lists.firstProvider_iff (h : Lists s es) (hfits : ∀ t, fits t = true ↔ w.Fits t) :
    firstProvider fits (s.providersIn w.annotation InPlace) = some (d, type) ↔
      w.ProvidesFirst s InPlace d type := by
  have hprovides {d : Declaration} {type : TypeRef} : w.Provides s d type ∧ InPlace d ↔
      d ∈ s.providersIn w.annotation InPlace ∧ returnType? d = some type ∧ fits type = true :=
    h.provides_iff hfits
  rw [firstProvider_eq_some_iff h.wellNumbered h.inOrder_providersIn]
  unfold Wish.ProvidesFirst
  constructor
  · rintro ⟨hd, hreturn, hfit, hfirst⟩
    obtain ⟨hp, hplace⟩ := hprovides.mpr ⟨hd, hreturn, hfit⟩
    refine ⟨hp, hplace, ?_⟩
    intro d' type' hp' hplace'
    obtain ⟨hd', hreturn', hfit'⟩ := hprovides.mp ⟨hp', hplace'⟩
    exact hfirst d' hd' type' hreturn' hfit'
  · rintro ⟨hp, hplace, hfirst⟩
    obtain ⟨hd, hreturn, hfit⟩ := hprovides.mp ⟨hp, hplace⟩
    refine ⟨hd, hreturn, hfit, ?_⟩
    intro d' hd' type' hreturn' hfit'
    obtain ⟨hp', hplace'⟩ := hprovides.mpr ⟨hd', hreturn', hfit'⟩
    exact hfirst d' type' hp' hplace'

end Place

theorem methodProviders_eq (name : String) (model : DeclId) : s.methodProviders name model =
    s.providersIn name fun d => d.parent = some model := rfl

theorem companionProviders_eq (name : String) (model : DeclId) :
    s.companionProviders name model = s.providersIn name fun d =>
      d.parent ≠ some model ∧ s.grandparentId? d.id = some model := rfl

/-- Places with the same declarations in them have the same first provider. -/
theorem Wish.providesFirst_congr {InPlace InPlace' : Declaration → Prop}
    (h : ∀ d ∈ s.declarations, InPlace d ↔ InPlace' d) :
    w.ProvidesFirst s InPlace d type ↔ w.ProvidesFirst s InPlace' d type := by
  unfold ProvidesFirst
  constructor
  · rintro ⟨hp, hplace, hfirst⟩
    refine ⟨hp, (h d hp.1).mp hplace, ?_⟩
    intro d' type' hp' hplace'
    exact hfirst d' type' hp' ((h d' hp'.1).mpr hplace')
  · rintro ⟨hp, hplace, hfirst⟩
    refine ⟨hp, (h d hp.1).mpr hplace, ?_⟩
    intro d' type' hp' hplace'
    exact hfirst d' type' hp' ((h d' hp'.1).mp hplace')

/-- A declaration two levels below the model stands in a class directly inside the model, and so
not in the model itself. -/
theorem WellNumbered.standsBelow_iff (hw : WellNumbered s) (hd : d ∈ s.declarations) :
    d.parent ≠ some model ∧ s.grandparentId? d.id = some model ↔ s.StandsBelow model d := by
  have hget := hw.get?_id hd
  simp only [StandsBelow, grandparentId?, parent?, hget, Option.bind_eq_bind, Option.bind_some,
    Option.bind_eq_some_iff]
  constructor
  · rintro ⟨-, outer, ⟨p, hp, houter⟩, hmodel⟩
    rw [← hw.id_eq houter] at hp
    exact ⟨outer, mem_declarations_of_get? houter, hp, hmodel⟩
  · rintro ⟨outer, houter, hp, hmodel⟩
    have houter' := hw.get?_id houter
    obtain ⟨hlt, -⟩ := hw.parent houter' hmodel
    refine ⟨?_, outer, ⟨outer.id, hp, houter'⟩, hmodel⟩
    rw [hp, ne_eq, Option.some.injEq]
    exact hlt.ne'

/-! ## The places that are tried -/

/-- The value that a function returns, if it fits. -/
def returned? (fits : TypeRef → Bool) (function : Declaration) : Option ValueSource :=
  (returnType? function).bind fun type => if fits type then some (.returned type) else none

/-- The element of the pair that a function returns, if it fits. -/
def inPair? (config : Config) (fits : TypeRef → Bool) (element : Nat) (function : Declaration) :
    Option ValueSource := do
  let inner ← pairElement? config (← returnType? function) element
  if fits inner then some (.inPair inner) else none

/-- The first method of the model that fits, for an intent. -/
def fromMethod? (s : Snapshot) (fits : TypeRef → Bool) (name : String) (model : DeclId) :
    Site → Option ValueSource
  | .init => none
  | .intent => (firstProvider fits (s.methodProviders name model)).map fun (d, type) =>
    .method d.id d.simpleName type

/-- The first function of an object inside the model that fits. -/
def fromCompanion? (s : Snapshot) (fits : TypeRef → Bool) (name : String) (model : DeclId) :
    Option ValueSource :=
  (firstProvider fits (s.companionProviders name model)).map fun (d, type) =>
    .companion d.id d.simpleName type

theorem source?_eq (element : Nat) (name : String) (site : Site) :
    s.source? config fits element name function model site =
      [returned? fits function, inPair? config fits element function,
        s.fromMethod? fits name model site, s.fromCompanion? fits name model].foldr
          Option.or none := by
  have hreturn : ((returnType? function).bind fun type =>
      if fits type then some (.returned type)
      else (pairElement? config type element).bind fun inner =>
        if fits inner then some (.inPair inner) else none) =
      (returned? fits function).or (inPair? config fits element function) := by
    unfold returned? inPair?
    rcases returnType? function with _ | type
    · rfl
    · by_cases h : fits type <;> simp [h]
  cases site <;>
    simp only [source?, hreturn, fromMethod?, fromCompanion?, List.foldr_cons, List.foldr_nil,
      Option.or_none, Option.none_or, Option.or_assoc]

theorem holds_returned? (hfits : ∀ t, fits t = true ↔ w.Fits t) :
    Holds (returned? fits function) (w.ReturnedBy function) := by
  intro v
  simp only [returned?, Wish.ReturnedBy, Option.bind_eq_some_iff, Option.ite_none_right_eq_some,
    Option.some.injEq, hfits, eq_comm (a := v)]

theorem holds_inPair? (hfits : ∀ t, fits t = true ↔ w.Fits t) :
    Holds (inPair? config fits w.element function) (w.InPairOf config function) := by
  intro v
  simp only [inPair?, Wish.InPairOf, pairElement?, Option.bind_eq_bind, Option.bind_eq_some_iff,
    Option.ite_none_right_eq_some, Option.some.injEq, hfits, eq_comm (a := v)]
  constructor
  · rintro ⟨pair, hpair, type, ⟨hname, htype⟩, hfit, hv⟩
    exact ⟨pair, type, hpair, hname, htype, hfit, hv⟩
  · rintro ⟨pair, type, hpair, hname, htype, hfit, hv⟩
    exact ⟨pair, hpair, type, ⟨hname, htype⟩, hfit, hv⟩

theorem Lists.holds_fromMethod? (h : Lists s es) (hfits : ∀ t, fits t = true ↔ w.Fits t)
    (site : Site) :
    Holds (s.fromMethod? fits w.annotation model site) (w.FromMethod s model site) := by
  intro v
  cases site with
  | init => simp only [fromMethod?, Wish.FromMethod, reduceCtorEq, false_and]
  | intent =>
    simp only [fromMethod?, Wish.FromMethod, methodProviders_eq, Option.map_eq_some_iff,
      Prod.exists, h.firstProvider_iff hfits, true_and, eq_comm (a := v)]

theorem Lists.holds_fromCompanion? (h : Lists s es) (hfits : ∀ t, fits t = true ↔ w.Fits t) :
    Holds (s.fromCompanion? fits w.annotation model) (w.FromCompanion s model) := by
  intro v
  have hfirst (d : Declaration) (type : TypeRef) :
      firstProvider fits (s.companionProviders w.annotation model) = some (d, type) ↔
        w.ProvidesFirst s (s.StandsBelow model) d type := by
    rw [companionProviders_eq, h.firstProvider_iff hfits]
    exact Wish.providesFirst_congr fun d hd => h.wellNumbered.standsBelow_iff hd
  simp only [fromCompanion?, Wish.FromCompanion, Option.map_eq_some_iff, Prod.exists, hfirst,
    eq_comm (a := v)]

/-- The place that is taken for a value is the first that exists. -/
theorem Lists.source?_iff (h : Lists s es) (hfits : ∀ t, fits t = true ↔ w.Fits t) (site : Site)
    (lastResort v : ValueSource) :
    (s.source? config fits w.element w.annotation function model site).getD lastResort = v ↔
      FirstOf lastResort (w.kinds s config function model site) v := by
  rw [source?_eq]
  apply firstOf_iff
  exact .cons (holds_returned? hfits) (.cons (holds_inPair? hfits)
    (.cons (h.holds_fromMethod? hfits site) (.cons (h.holds_fromCompanion? hfits) .nil)))

theorem wantsInfo_iff {retriever wanted : TypeRef} :
    s.WantsInfo retriever wanted ↔ s.infoType retriever = some wanted := by
  simp only [WantsInfo, infoType, Option.bind_eq_bind, Option.bind_eq_some_iff, Prod.exists]
  constructor
  · rintro ⟨d, shape, super, hclass, hsuper, hwanted⟩
    exact ⟨d, shape, hclass, super, hsuper, hwanted⟩
  · rintro ⟨d, shape, hclass, super, hsuper, hwanted⟩
    exact ⟨d, shape, super, hclass, hsuper, hwanted⟩

/-! ## The law of the sources -/

/-- The info and the data for a retriever come from the first source that exists. When the class of
the retriever tells which info it wants, the info is looked for under this type, and else it is
absent without a type. The data is looked for whatever the retriever is. What is not found is
absent with the type that was looked for. -/
theorem the_first_source_that_exists_is_taken {files : List SourceFile}
    (hs : ofFiles files = .ok s) (config : Config) (retriever : TypeRef) (function : Declaration)
    (model : DeclId) (site : Site) :
    (∀ wanted, s.WantsInfo retriever wanted → ∀ v,
      s.infoSource config retriever function model site = v ↔
        FirstOf (.absent (some wanted))
          ((infoWish config wanted).kinds s config function model site) v) ∧
    ((∀ wanted, ¬ s.WantsInfo retriever wanted) →
      s.infoSource config retriever function model site = .absent none) ∧
    ∀ v, s.dataSource config function model site = v ↔
      FirstOf (.absent (some { name := config.retrieverDataType }))
        ((s.dataWish config).kinds s config function model site) v := by
  have h := lists_ofFiles hs
  refine ⟨?_, ?_, ?_⟩
  · intro wanted hwanted v
    unfold infoSource
    rw [wantsInfo_iff.mp hwanted]
    have hfits : ∀ t, decide (t = wanted) = true ↔ (infoWish config wanted).Fits t :=
      fun _ => decide_eq_true_iff
    exact h.source?_iff hfits site _ v
  · intro hnone
    have htype : s.infoType retriever = none := by
      rw [Option.eq_none_iff_forall_ne_some]
      intro wanted hwanted
      exact hnone wanted (wantsInfo_iff.mpr hwanted)
    unfold infoSource
    rw [htype]
  · intro v
    have hfits : ∀ t, s.isAssignable config.retrieverDataType t = true ↔
        (s.dataWish config).Fits t := fun _ => Iff.rfl
    exact h.source?_iff hfits site _ v

/-- The type of the info that the retriever of a post wants. -/
def postInfo : TypeRef := { name := "app.HttpInfo" }

/-- A retriever with its info and its data, and a model that provides info in two places and data
in its companion object. -/
def postFile : SourceFile where
  path := "app/Post.kt"
  package := "app"
  declarations :=
    let names : AnnotationNames := {}
    let provider (name : String) (type : TypeRef) : Node :=
      Node.functionNamed name |>.returning type
    [Node.classNamed "HttpInfo",
    Node.classNamed "PostData" |>.withSuperType { name := libraryPackage ++ ".RetrieverData" },
    Node.classNamed "Http"
      |>.withSuperType ⟨libraryPackage ++ ".Retriever", [⟨.invariant, some postInfo⟩], false⟩,
    Node.classNamed "Post"
      |>.withMember (provider "endpoint" postInfo |>.annotated { name := names.retrieveInfo })
      |>.withMember (provider "title" postInfo |>.annotated { name := names.retrieveData })
      |>.withMember (Node.companion
        |>.withMember (provider "home" postInfo |>.annotated { name := names.retrieveInfo })
        |>.withMember (provider "query" { name := "app.PostData" }
          |>.annotated { name := names.retrieveData })),
    Node.functionNamed "load"]

/-- An intent takes the info from the method of the post, and an init function from the companion
object. The data comes from there too, since what the method gives is no data. A post is no
retriever and wants no info. -/
theorem the_post_is_asked_first : ∃ s, ofFiles [postFile] = .ok s ∧
    ∃ load ∈ s.declarations, load.qualifiedName = "app.load" ∧
      s.WantsInfo { name := "app.Http" } postInfo ∧
      FirstOf (.absent (some postInfo)) ((infoWish {} postInfo).kinds s {} load 3 .intent)
        (.method 4 "endpoint" postInfo) ∧
      FirstOf (.absent (some postInfo)) ((infoWish {} postInfo).kinds s {} load 3 .init)
        (.companion 7 "home" postInfo) ∧
      (∀ wanted, ¬ s.WantsInfo { name := "app.Post" } wanted) ∧
      s.infoSource {} { name := "app.Post" } load 3 .intent = .absent none ∧
      FirstOf (.absent (some { name := libraryPackage ++ ".RetrieverData" }))
        ((s.dataWish {}).kinds s {} load 3 .intent)
        (.companion 8 "query" { name := "app.PostData" }) := by
  obtain ⟨s, hs, hhttp, hpost, load, hload, hname, hintent, hinit, hdata⟩ :=
    exists_ofFiles_singleton postFile (fun s =>
      s.infoType { name := "app.Http" } = some postInfo ∧
      s.infoType { name := "app.Post" } = none ∧
      ∃ load ∈ s.declarations, load.qualifiedName = "app.load" ∧
        s.infoSource {} { name := "app.Http" } load 3 .intent = .method 4 "endpoint" postInfo ∧
        s.infoSource {} { name := "app.Http" } load 3 .init = .companion 7 "home" postInfo ∧
        s.dataSource {} load 3 .intent = .companion 8 "query" { name := "app.PostData" })
      (by decide +kernel)
  have hwants : s.WantsInfo { name := "app.Http" } postInfo := wantsInfo_iff.mpr hhttp
  have hnone : ∀ wanted, ¬ s.WantsInfo { name := "app.Post" } wanted := by
    intro wanted hwanted
    rw [wantsInfo_iff, hpost] at hwanted
    cases hwanted
  have hlaw (retriever : TypeRef) (site : Site) :=
    the_first_source_that_exists_is_taken hs {} retriever load 3 site
  refine ⟨s, hs, load, hload, hname, hwants, ?_, ?_, hnone, ?_, ?_⟩
  · exact ((hlaw { name := "app.Http" } .intent).1 _ hwants _).mp hintent
  · exact ((hlaw { name := "app.Http" } .init).1 _ hwants _).mp hinit
  · exact (hlaw { name := "app.Post" } .intent).2.1 hnone
  · exact ((hlaw { name := "app.Http" } .intent).2.2 _).mp hdata

end Snapshot

end BoundaryGen
