-- A model in a snapshot with some declarations out of sight. Its functions and the retrievers of
-- these are the same there, when no function out of sight takes or gives a type of its name.
import Mathlib
import BoundaryGen.Model.Retriever
import BoundaryGen.Proofs.Snapshot.Restriction
import BoundaryGen.Proofs.Wrapper.Unit

namespace BoundaryGen.Snapshot

/-- A function of these declarations takes or gives a type of the name. -/
def Mentioned (s : Snapshot) (kept : DeclId → Bool) (name : String) : Prop :=
  ∃ i d f, s.get? i = some d ∧ kept i = false ∧ d.function? = some f ∧ f.Mentions name

namespace Restricts

variable {s t : Snapshot} {kept : DeclId → Bool} {known : String → Prop}
  (h : Restricts s t kept known)
include h

/-! ## Annotated functions -/

theorem functionsAnnotated (name : String) :
    t.functionsAnnotated name = (s.functionsAnnotated name).filter fun (d, _) => kept d.id := by
  unfold Snapshot.functionsAnnotated
  rw [h.annotated, List.filterMap_filter, List.filter_filterMap]
  refine List.filterMap_congr fun i _ => ?_
  cases hi : kept i with
  | true =>
    rw [h.get? hi]
    cases hd : s.get? i with
    | none => rfl
    | some d => cases hf : d.function? <;> simp [hf, Option.filter_some, h.id_eq hd, hi]
  | false =>
    cases hd : s.get? i with
    | none => rfl
    | some d => cases hf : d.function? <;> simp [hf, Option.filter_some, h.id_eq hd, hi]

/-- What is made of the annotated functions, when nothing is made of those out of sight. -/
theorem filterMap_functions {β : Type} {name : String}
    {g g' : Declaration × FunctionShape → Option β}
    (hsame : ∀ {i d f}, s.get? i = some d → d.function? = some f → kept i = true →
      g (d, f) = g' (d, f))
    (hnone : ∀ {i d f}, s.get? i = some d → d.function? = some f → kept i = false →
      g' (d, f) = none) :
    (t.functionsAnnotated name).filterMap g = (s.functionsAnnotated name).filterMap g' := by
  rw [h.functionsAnnotated, List.filterMap_filter]
  refine List.filterMap_congr fun (d, f) hmem => ?_
  obtain ⟨i, hd, hf⟩ := exists_get?_of_functionsAnnotated hmem
  simp only [h.id_eq hd]
  cases hi : kept i with
  | true => exact hsame hd hf hi
  | false => exact (hnone hd hf hi).symm

theorem kept_of_mem_functionsAnnotated {name : String} {d : Declaration} {f : FunctionShape}
    (hmem : (d, f) ∈ t.functionsAnnotated name) : kept d.id = true := by
  rw [h.functionsAnnotated] at hmem
  exact (List.mem_filter.mp hmem).2

/-! ## Models -/

theorem modelIds (config : Config) : t.modelIds config = (s.modelIds config).filter kept := by
  unfold Snapshot.modelIds
  rw [h.annotated, List.filter_filter, List.filter_filter]
  refine List.filter_congr fun i _ => ?_
  cases hi : kept i with
  | true => rw [h.get? hi, Bool.and_true, Bool.true_and]
  | false => rw [Bool.and_false, Bool.false_and]

section Model

variable {model : DeclId} (hm : kept model = true) {m : Declaration} (hget : s.get? model = some m)
  (hq : ¬ s.Mentioned kept m.qualifiedName)
include hm hget hq

omit h hm hq in
theorem name_starProjectedType : (s.starProjectedType model).name = m.qualifiedName := by
  rw [Snapshot.starProjectedType, hget]
  rfl

theorem freeIntentIds (config : Config) :
    t.freeIntentIds config model = s.freeIntentIds config model := by
  unfold Snapshot.freeIntentIds
  rw [h.starProjectedType hm]
  refine h.filterMap_functions (fun _ _ _ => rfl) fun hd hf hi => ?_
  refine if_neg fun hfits => hq ⟨_, _, _, hd, hi, hf, Or.inl ?_⟩
  have htype := congrArg (Option.map TypeRef.name) hfits.2.2
  rw [Option.map_map, Option.map_some, name_starProjectedType hget] at htype
  exact htype

theorem receiverIntentIds (config : Config) :
    t.receiverIntentIds config model = s.receiverIntentIds config model := by
  unfold Snapshot.receiverIntentIds
  rw [h.get? hm, hget]
  refine congrArg (firstOfEach []) (h.filterMap_functions (fun _ _ _ => rfl) fun hd hf hi => ?_)
  have hreceiver : ¬ _ := fun hr => hq ⟨_, _, _, hd, hi, hf, Or.inr (Or.inl hr)⟩
  have hparent : ¬ _ = some model := fun hp => by
    have hkept := h.parent hd hp
    rw [hm, hi] at hkept
    cases hkept
  simp only [Snapshot.receiverConvention?, if_neg hreceiver, if_neg hparent, Option.map_none]

theorem initId (config : Config) : t.initId config model = s.initId config model := by
  unfold Snapshot.initId
  rw [h.starProjectedType hm, ← List.head?_filterMap, ← List.head?_filterMap]
  refine congrArg List.head? (h.filterMap_functions (fun hd _ hi => ?_) fun hd hf hi => ?_)
  · simp only [h.id_eq hd, h.grandparentId? hi]
  · refine if_neg fun hfits => ?_
    rcases hfits with hreturn | ⟨-, hgrandparent⟩
    · refine hq ⟨_, _, _, hd, hi, hf, Or.inr (Or.inr ?_)⟩
      rw [hreturn, Option.map_some, name_starProjectedType hget]
    · rw [h.id_eq hd] at hgrandparent
      have hkept := h.kept_grandparentId? hgrandparent
      rw [hm, hi] at hkept
      cases hkept

omit hm hget hq in
theorem kept_of_mem_freeIntentIds {config : Config} {i : DeclId}
    (hi : i ∈ t.freeIntentIds config model) : kept i = true := by
  obtain ⟨⟨d, f⟩, hmem, hd⟩ := List.mem_filterMap.mp hi
  dsimp only at hd
  split at hd
  · cases hd
    exact h.kept_of_mem_functionsAnnotated hmem
  · cases hd

omit hq in
theorem kept_of_mem_receiverIntentIds {config : Config} {i : DeclId} {c : Convention}
    (hi : (i, c) ∈ t.receiverIntentIds config model) : kept i = true := by
  unfold Snapshot.receiverIntentIds at hi
  rw [h.get? hm, hget] at hi
  obtain ⟨⟨d, f⟩, hmem, hd⟩ := List.mem_filterMap.mp (mem_of_mem_firstOfEach hi)
  obtain ⟨c, -, hpair⟩ := Option.map_eq_some_iff.mp hd
  cases hpair
  exact h.kept_of_mem_functionsAnnotated hmem

omit hm hget hq in
theorem kept_of_initId {config : Config} {i : DeclId} (hi : t.initId config model = some i) :
    kept i = true := by
  obtain ⟨⟨d, f⟩, hmem, hd⟩ := List.exists_of_findSome?_eq_some hi
  dsimp only at hd
  split at hd
  · cases hd
    exact h.kept_of_mem_functionsAnnotated hmem
  · cases hd

omit hm hget hq in
theorem intentOf? (config : Config) {i : DeclId} (hi : kept i = true) (c : Convention) :
    t.intentOf? config i c = s.intentOf? config i c := by
  unfold Snapshot.intentOf?
  rw [h.get? hi]

theorem intents (config : Config) : t.intents config model = s.intents config model := by
  unfold Snapshot.intents
  rw [← h.freeIntentIds hm hget hq, ← h.receiverIntentIds hm hget hq]
  congr 1
  · refine List.filterMap_congr fun i hi => ?_
    exact h.intentOf? config (h.kept_of_mem_freeIntentIds hi) .free
  · refine List.filterMap_congr fun (i, c) hi => ?_
    exact h.intentOf? config (h.kept_of_mem_receiverIntentIds hm hget hi) c

omit hm hget hq in
theorem placement {d : Declaration} (hd : kept d.id = true) (owner : Declaration) :
    t.placement d owner = s.placement d owner := by
  unfold Snapshot.placement
  rw [h.parent? hd]
  cases hp : s.parent? d.id with
  | none => rfl
  | some parent =>
    have hbind : parent.parent.bind t.get? = parent.parent.bind s.get? := by
      cases hq : parent.parent with
      | none => rfl
      | some q =>
        have hgrandparent : s.grandparentId? d.id = some q := by
          rw [Snapshot.grandparentId?, hp]
          exact hq
        exact h.get? ((h.kept_grandparentId? hgrandparent).trans hd)
    simp only [hbind]

omit hm hget hq in
theorem initOf? (config : Config) {i : DeclId} (hi : kept i = true) (owner : Declaration) :
    t.initOf? config i owner = s.initOf? config i owner := by
  unfold Snapshot.initOf?
  rw [h.get? hi]
  cases hd : s.get? i with
  | none => rfl
  | some d =>
    have hid : kept d.id = true := by rw [h.id_eq hd, hi]
    cases hf : d.function? <;> simp [hf, h.placement hid]

/-- A model that is mentioned by nothing out of sight is the same model. -/
theorem model? (config : Config) : t.model? config model = s.model? config model := by
  have hinit : (t.initId config model).bind (t.initOf? config · m) =
      (s.initId config model).bind (s.initOf? config · m) := by
    rw [← h.initId hm hget hq]
    cases hi : t.initId config model with
    | none => rfl
    | some i => exact h.initOf? config (h.kept_of_initId hi) m
  unfold Snapshot.model?
  rw [h.get? hm, hget]
  simp [hinit, h.starProjectedType hm, h.intents hm hget hq]

end Model

/-! ## Retrievers -/

theorem infoType {retriever : TypeRef} (hn : known retriever.name) :
    t.infoType retriever = s.infoType retriever := by
  unfold Snapshot.infoType
  rw [h.classNamed hn]

section Providers

variable {model : DeclId} (hm : kept model = true)
include hm

theorem methodProviders (name : String) :
    t.methodProviders name model = s.methodProviders name model := by
  unfold Snapshot.methodProviders
  refine h.filterMap_functions (fun _ _ _ => rfl) fun hd _ hi => ?_
  refine if_neg fun hp => ?_
  have hkept := h.parent hd hp
  rw [hm, hi] at hkept
  cases hkept

theorem companionProviders (name : String) :
    t.companionProviders name model = s.companionProviders name model := by
  unfold Snapshot.companionProviders
  refine h.filterMap_functions (fun hd _ hi => ?_) fun hd _ hi => ?_
  · simp only [h.id_eq hd, h.grandparentId? hi]
  · refine if_neg fun hp => ?_
    rw [h.id_eq hd] at hp
    have hkept := h.kept_grandparentId? hp.2
    rw [hm, hi] at hkept
    cases hkept

theorem kept_of_mem_methodProviders {name : String} {d : Declaration}
    (hd : d ∈ s.methodProviders name model) : ∃ i, kept i = true ∧ s.get? i = some d := by
  obtain ⟨⟨d', f⟩, hmem, hp⟩ := List.mem_filterMap.mp hd
  obtain ⟨i, hget, -⟩ := exists_get?_of_functionsAnnotated hmem
  dsimp only at hp
  split at hp
  · rename_i hparent
    cases hp
    exact ⟨i, (h.parent hget hparent).symm.trans hm, hget⟩
  · cases hp

theorem kept_of_mem_companionProviders {name : String} {d : Declaration}
    (hd : d ∈ s.companionProviders name model) : ∃ i, kept i = true ∧ s.get? i = some d := by
  obtain ⟨⟨d', f⟩, hmem, hp⟩ := List.mem_filterMap.mp hd
  obtain ⟨i, hget, -⟩ := exists_get?_of_functionsAnnotated hmem
  dsimp only at hp
  split at hp
  · rename_i hgrandparent
    cases hp
    rw [h.id_eq hget] at hgrandparent
    exact ⟨i, (h.kept_grandparentId? hgrandparent.2).symm.trans hm, hget⟩
  · cases hp

end Providers

theorem known_returnType {i : DeclId} {d : Declaration} (hi : kept i = true)
    (hd : s.get? i = some d) {type : TypeRef} (hr : returnType? d = some type) :
    ∀ name ∈ type.names, known name := by
  obtain ⟨f, hf, hreturn⟩ := Option.bind_eq_some_iff.mp hr
  intro name hname
  exact h.known_type hi hd name (Declaration.names_subset_of_returnType hf hreturn hname)

section Sources

variable {fits fits' : TypeRef → Bool}
  (hfits : ∀ type, (∀ name ∈ type.names, known name) → fits type = fits' type)
include hfits

theorem firstProvider {providers : List Declaration}
    (hp : ∀ d ∈ providers, ∃ i, kept i = true ∧ s.get? i = some d) :
    Snapshot.firstProvider fits providers = Snapshot.firstProvider fits' providers := by
  unfold Snapshot.firstProvider
  rw [← List.head?_filterMap, ← List.head?_filterMap]
  refine congrArg List.head? (List.filterMap_congr fun d hd => ?_)
  obtain ⟨i, hi, hget⟩ := hp d hd
  cases hr : returnType? d with
  | none => rfl
  | some type => simp only [hfits type (h.known_returnType hi hget hr)]

theorem source? {config : Config} (element : Nat) (name : String) {i model : DeclId}
    {function : Declaration} (hi : kept i = true) (hget : s.get? i = some function)
    (hm : kept model = true) (site : Site) :
    t.source? config fits element name function model site =
      s.source? config fits' element name function model site := by
  unfold Snapshot.source?
  rw [h.methodProviders hm, h.companionProviders hm,
    h.firstProvider hfits fun d => h.kept_of_mem_methodProviders hm,
    h.firstProvider hfits fun d => h.kept_of_mem_companionProviders hm]
  cases hr : returnType? function with
  | none => rfl
  | some type =>
    have hknown := h.known_returnType hi hget hr
    simp only [Option.bind_some, hfits type hknown]
    cases hpair : pairElement? config type element with
    | none => rfl
    | some inner =>
      have hinner : ∀ name ∈ inner.names, known name := by
        intro name hname
        unfold pairElement? at hpair
        split at hpair
        · exact hknown name (TypeRef.names_subset_of_argument? hpair hname)
        · cases hpair
      simp only [Option.bind_some, hfits inner hinner]

end Sources

theorem infoSource {config : Config} {retriever : TypeRef} (hn : known retriever.name)
    {i model : DeclId} {function : Declaration} (hi : kept i = true)
    (hget : s.get? i = some function) (hm : kept model = true) (site : Site) :
    t.infoSource config retriever function model site =
      s.infoSource config retriever function model site := by
  unfold Snapshot.infoSource
  rw [h.infoType hn]
  cases s.infoType retriever with
  | none => rfl
  | some wanted => simp only [h.source? (fun _ _ => rfl) 0 _ hi hget hm site]

omit h in
theorem known_retrieverAt {config : Config} {d : Declaration}
    (hd : ∀ name ∈ d.typeNames, known name) {type : TypeRef}
    (ht : retrieverAt config d = .ok (some type)) : known type.name := by
  unfold retrieverAt at ht
  cases huse : d.annotationNamed config.annotations.retrieveWith with
  | none =>
    rw [huse] at ht
    cases ht
  | some use =>
    cases hfirst : use.firstType? with
    | none =>
      simp only [huse, hfirst] at ht
      cases ht
    | some type' =>
      simp only [huse, hfirst] at ht
      cases ht
      have hmem : use ∈ d.annotations := List.mem_of_find?_eq_some huse
      exact hd _ (Declaration.names_subset_of_annotation hmem hfirst type.name_mem_names)

omit h in
theorem known_findRetriever {config : Config} {function model : Declaration}
    (hf : ∀ name ∈ function.typeNames, known name) (hm : ∀ name ∈ model.typeNames, known name)
    {type : TypeRef} (ht : findRetriever config function model = .ok type) : known type.name := by
  unfold findRetriever at ht
  rcases hat : retrieverAt config function with e | type?
  · rw [hat] at ht
    cases ht
  · rcases type? with _ | type'
    · rcases hat' : retrieverAt config model with e | type?
      · simp only [hat, hat'] at ht
        cases ht
      · rcases type? with _ | type'
        · simp only [hat, hat'] at ht
          cases ht
        · simp only [hat, hat'] at ht
          cases ht
          exact known_retrieverAt hm hat'
    · rw [hat] at ht
      cases ht
      exact known_retrieverAt hf hat

/-- The retriever of a function, with the places of its info and data, is the same when the same
types serve as data. -/
theorem bindAt (hassign : ∀ {target type}, known type.name →
      t.isAssignable target type = s.isAssignable target type) (config : Config)
    {function model : DeclId} (hf : kept function = true) (hm : kept model = true) (site : Site) :
    t.bindAt config function model site = s.bindAt config function model site := by
  unfold Snapshot.bindAt
  rw [h.get? hf, h.get? hm]
  cases hgf : s.get? function with
  | none => rfl
  | some f =>
    cases hgm : s.get? model with
    | none => rfl
    | some m =>
      simp only [Snapshot.bind]
      cases hfind : findRetriever config f m with
      | error e => rfl
      | ok retriever =>
        have hn := known_findRetriever (h.known_type hf hgf) (h.known_type hm hgm) hfind
        have hkept : kept m.id = true := by rw [h.id_eq hgm, hm]
        have hdata : t.dataSource config f m.id site = s.dataSource config f m.id site := by
          unfold Snapshot.dataSource
          rw [h.source? (fun type hk => hassign (hk _ type.name_mem_names)) 1 _ hf hgf hkept site]
        refine congrArg Except.ok ?_
        rw [h.infoSource hn hf hgf hkept site, hdata]

end Restricts

end BoundaryGen.Snapshot
