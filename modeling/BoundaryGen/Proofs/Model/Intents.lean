-- The intents of a model: every function that carries the annotation and takes the model is one of
-- them, the free functions first, both groups in the order of the source. A function that is called
-- on the model is listed once, but a free function as often as it carries the annotation.
import Mathlib
import BoundaryGen.Proofs.Model.Functions
import BoundaryGen.Proofs.Wrapper.Serving
import BoundaryGen.Source.Build

namespace BoundaryGen.Snapshot

variable {s : Snapshot} {es : List SourceEntry} {config : Config} {m : Model} {id : DeclId}
variable {d : Declaration} {f : FunctionShape} {c : Convention}

/-! ## Functions that take a model -/

/-- How a function takes a model: a free one as its first parameter, an extension as its receiver
wherever it is declared, and a method as the class that it stands in. -/
def TakesModel (s : Snapshot) (m : Model) (d : Declaration) (f : FunctionShape) :
    Convention → Prop
  | .free => d.parent = none ∧ f.receiver = none ∧
      ∃ p, f.parameters.head? = some p ∧ p.type = s.starProjectedType m.decl
  | .extension => ∃ r, f.receiver = some r ∧ r.name = m.qualifiedName
  | .method => d.parent = some m.decl ∧ ∀ r, f.receiver = some r → r.name ≠ m.qualifiedName

/-- A function takes a model in one way only. -/
theorem TakesModel.unique {c' : Convention} (h : s.TakesModel m d f c)
    (h' : s.TakesModel m d f c') : c = c' := by
  cases c with
  | free =>
    obtain ⟨hparent, hreceiver, -⟩ := h
    cases c' <;> simp [TakesModel, hparent, hreceiver] at h' ⊢
  | method =>
    obtain ⟨hparent, hother⟩ := h
    cases c' with
    | free => simp [TakesModel, hparent] at h'
    | method => rfl
    | extension =>
      obtain ⟨r, hr, hname⟩ := h'
      exact absurd hname (hother r hr)
  | extension =>
    obtain ⟨r, hr, hname⟩ := h
    cases c' with
    | free => simp [TakesModel, hr] at h'
    | method => exact absurd hname (h'.2 r hr)
    | extension => rfl

/-- The number of a function tells what it declares and how it takes the model. -/
theorem WellNumbered.eq_of_takesModel (hw : WellNumbered s) {d' : Declaration}
    {f' : FunctionShape} {c' : Convention} (hd : d ∈ s.declarations) (hd' : d' ∈ s.declarations)
    (hid : d.id = d'.id) (hf : d.function? = some f) (hf' : d'.function? = some f')
    (h : s.TakesModel m d f c) (h' : s.TakesModel m d' f' c') : d = d' ∧ f = f' ∧ c = c' := by
  obtain rfl := hw.eq_of_id_eq hd hd' hid
  obtain rfl := Option.some.inj (hf.symm.trans hf')
  exact ⟨rfl, rfl, h.unique h'⟩

theorem receiverConvention?_eq_some_iff :
    receiverConvention? m.decl m.qualifiedName d f = some c ↔
      c.onReceiver = true ∧ s.TakesModel m d f c := by
  unfold receiverConvention?
  rcases hr : f.receiver with _ | r
  · cases c <;> simp [TakesModel, Convention.onReceiver, hr]
  · by_cases hname : r.name = m.qualifiedName
    · cases c <;> simp [TakesModel, Convention.onReceiver, hr, hname]
    · cases c <;> simp [TakesModel, Convention.onReceiver, hr, hname]

/-- An intent of a model is a declared function that carries the annotation and takes the model. -/
def IsIntent (s : Snapshot) (config : Config) (m : Model) (i : Intent) : Prop :=
  ∃ d ∈ s.declarations, ∃ f c, d.function? = some f ∧
    0 < d.timesMarked config.annotations.intent ∧ s.TakesModel m d f c ∧ i = intent config d f c

/-- A free function that carries the annotation more than once. -/
def MarkedAgain (s : Snapshot) (config : Config) (i : Intent) : Prop :=
  i.convention = .free ∧
    ∃ d ∈ s.declarations, d.id = i.decl ∧ 1 < d.timesMarked config.annotations.intent

/-! ## The first of each function -/

section FirstOfEach

variable {seen : List DeclId} {pairs : List (DeclId × Convention)}

theorem firstOfEach_sublist : (firstOfEach seen pairs).Sublist pairs := by
  induction pairs generalizing seen with
  | nil => exact .slnil
  | cons pair rest ih =>
    unfold firstOfEach
    split
    · exact ih.cons pair
    · exact ih.cons_cons pair

theorem fst_notMem_of_mem_firstOfEach {pair : DeclId × Convention}
    (h : pair ∈ firstOfEach seen pairs) : pair.1 ∉ seen := by
  induction pairs generalizing seen with
  | nil => cases h
  | cons first rest ih =>
    unfold firstOfEach at h
    split at h
    · exact ih h
    · rename_i hnew
      rcases List.mem_cons.mp h with rfl | h
      · exact hnew
      · exact fun hseen => ih h (List.mem_cons_of_mem first.1 hseen)

theorem nodup_firstOfEach : ((firstOfEach seen pairs).map (·.1)).Nodup := by
  induction pairs generalizing seen with
  | nil => exact List.nodup_nil
  | cons first rest ih =>
    unfold firstOfEach
    split
    · exact ih
    · rw [List.map_cons, List.nodup_cons]
      refine ⟨?_, ih⟩
      intro hmem
      obtain ⟨pair, hpair, heq⟩ := List.mem_map.mp hmem
      apply fst_notMem_of_mem_firstOfEach hpair
      rw [heq]
      exact List.mem_cons_self

theorem exists_mem_firstOfEach {i : DeclId} (h : (i, c) ∈ pairs) (hi : i ∉ seen) :
    ∃ c', (i, c') ∈ firstOfEach seen pairs := by
  induction pairs generalizing seen with
  | nil => cases h
  | cons first rest ih =>
    unfold firstOfEach
    by_cases hfirst : first.1 = i
    · rw [if_neg (hfirst ▸ hi)]
      exact ⟨first.2, hfirst ▸ List.mem_cons_self⟩
    · have hrest : (i, c) ∈ rest := by
        refine (List.mem_cons.mp h).resolve_left ?_
        rintro rfl
        exact hfirst rfl
      split
      · exact ih hrest hi
      · have hnew : i ∉ first.1 :: seen := by simp [Ne.symm hfirst, hi]
        obtain ⟨c', hc'⟩ := ih hrest hnew
        exact ⟨c', List.mem_cons_of_mem first hc'⟩

end FirstOfEach

/-! ## Numbers of intents -/

/-- A function that is called on the model is found once. -/
theorem nodup_receiverIntentIds : ((s.receiverIntentIds config id).map (·.1)).Nodup := by
  unfold receiverIntentIds
  split
  · exact List.nodup_nil
  · exact nodup_firstOfEach

/-- The numbers of the intents of a model, each with the way in which it takes the model. -/
def intentPairs (s : Snapshot) (config : Config) (m : Model) : List (DeclId × Convention) :=
  (s.freeIntentIds config m.decl).map (·, .free) ++ s.receiverIntentIds config m.decl

/-- A model stands under its number and its qualified name. -/
theorem exists_of_model? (hm : s.model? config id = some m) :
    ∃ d, s.get? m.decl = some d ∧ m.qualifiedName = d.qualifiedName := by
  simp only [model?, Option.bind_eq_bind, Option.bind_eq_some_iff, Option.pure_def,
    Option.some.injEq] at hm
  obtain ⟨d, hd, rfl⟩ := hm
  exact ⟨d, hd, rfl⟩

/-- The functions that take the model as their receiver, as often as they carry the annotation. -/
def receiverPairs (s : Snapshot) (config : Config) (m : Model) : List (DeclId × Convention) :=
  (s.functionsAnnotated config.annotations.intent).filterMap fun x =>
    (receiverConvention? m.decl m.qualifiedName x.1 x.2).map (x.1.id, ·)

theorem receiverIntentIds_eq (hm : s.model? config id = some m) :
    s.receiverIntentIds config m.decl = firstOfEach [] (s.receiverPairs config m) := by
  obtain ⟨model, hget, hname⟩ := exists_of_model? hm
  unfold receiverIntentIds receiverPairs
  simp only [hget, hname]

theorem intents_eq_filterMap (hm : s.model? config id = some m) :
    m.intents = (s.intentPairs config m).filterMap fun (i, c) => s.intentOf? config i c := by
  simp only [model?, Option.bind_eq_bind, Option.bind_eq_some_iff, Option.pure_def,
    Option.some.injEq] at hm
  obtain ⟨d, -, rfl⟩ := hm
  unfold intentPairs
  rw [List.filterMap_append, List.filterMap_map]
  rfl

namespace Lists

theorem mem_freeIntentIds (h : Lists s es) {i : DeclId} : i ∈ s.freeIntentIds config m.decl ↔
    ∃ d ∈ s.declarations, ∃ f, d.id = i ∧ d.function? = some f ∧
      0 < d.timesMarked config.annotations.intent ∧ s.TakesModel m d f .free := by
  unfold freeIntentIds
  simp only [List.mem_filterMap, Prod.exists, h.mem_functionsAnnotated,
    Option.ite_none_right_eq_some, Option.some.injEq, Option.isNone_iff_eq_none,
    Option.map_eq_some_iff]
  constructor
  · rintro ⟨d, f, ⟨hd, hf, hmarked⟩, htakes, rfl⟩
    exact ⟨d, hd, f, rfl, hf, hmarked, htakes⟩
  · rintro ⟨d, hd, f, rfl, hf, hmarked, htakes⟩
    exact ⟨d, f, ⟨hd, hf, hmarked⟩, htakes, rfl⟩

theorem mem_receiverPairs (h : Lists s es) {i : DeclId} :
    (i, c) ∈ s.receiverPairs config m ↔ c.onReceiver = true ∧
      ∃ d ∈ s.declarations, ∃ f, d.id = i ∧ d.function? = some f ∧
        0 < d.timesMarked config.annotations.intent ∧ s.TakesModel m d f c := by
  unfold receiverPairs
  simp only [List.mem_filterMap, Prod.exists, h.mem_functionsAnnotated, Option.map_eq_some_iff,
    Prod.mk.injEq, receiverConvention?_eq_some_iff (s := s)]
  constructor
  · rintro ⟨d, f, ⟨hd, hf, hmarked⟩, c, ⟨hc, htakes⟩, rfl, rfl⟩
    exact ⟨hc, d, hd, f, rfl, hf, hmarked, htakes⟩
  · rintro ⟨hc, d, hd, f, rfl, hf, hmarked, htakes⟩
    exact ⟨d, f, ⟨hd, hf, hmarked⟩, c, ⟨hc, htakes⟩, rfl, rfl⟩

theorem mem_receiverIntentIds (h : Lists s es) (hm : s.model? config id = some m) {i : DeclId} :
    (i, c) ∈ s.receiverIntentIds config m.decl ↔ c.onReceiver = true ∧
      ∃ d ∈ s.declarations, ∃ f, d.id = i ∧ d.function? = some f ∧
        0 < d.timesMarked config.annotations.intent ∧ s.TakesModel m d f c := by
  rw [receiverIntentIds_eq hm]
  constructor
  · intro hmem
    exact h.mem_receiverPairs.mp (firstOfEach_sublist.subset hmem)
  · intro hintent
    -- The pair that is kept for a function is this one, as a function takes the model in one way.
    obtain ⟨c', hc'⟩ := exists_mem_firstOfEach (h.mem_receiverPairs.mpr hintent) List.not_mem_nil
    obtain ⟨-, d, hd, f, rfl, hf, -, htakes⟩ := hintent
    obtain ⟨-, d', hd', f', hid, hf', -, htakes'⟩ :=
      h.mem_receiverPairs.mp (firstOfEach_sublist.subset hc')
    obtain ⟨-, -, rfl⟩ := h.wellNumbered.eq_of_takesModel hd hd' hid.symm hf hf' htakes htakes'
    exact hc'

/-- The functions that carry the annotation and take the model, each in its way. -/
theorem mem_intentPairs (h : Lists s es) (hm : s.model? config id = some m) {i : DeclId} :
    (i, c) ∈ s.intentPairs config m ↔ ∃ d ∈ s.declarations, ∃ f, d.id = i ∧
      d.function? = some f ∧ 0 < d.timesMarked config.annotations.intent ∧
        s.TakesModel m d f c := by
  unfold intentPairs
  have hfree : (i, c) ∈ (s.freeIntentIds config m.decl).map (·, Convention.free) ↔
      c = .free ∧ i ∈ s.freeIntentIds config m.decl := by
    simp [and_comm, eq_comm]
  rw [List.mem_append, hfree, h.mem_freeIntentIds, h.mem_receiverIntentIds hm]
  cases c <;> simp [Convention.onReceiver]

theorem intentOf?_eq (h : Lists s es) (hd : d ∈ s.declarations) (hf : d.function? = some f) :
    s.intentOf? config d.id c = some (intent config d f c) := by
  simp [intentOf?, h.wellNumbered.get?_id hd, hf]

/-- The intents of a model are exactly its intent functions. -/
theorem mem_intents_iff (h : Lists s es) (hm : s.model? config id = some m) {i : Intent} :
    i ∈ m.intents ↔ s.IsIntent config m i := by
  rw [intents_eq_filterMap hm, List.mem_filterMap]
  simp only [Prod.exists, h.mem_intentPairs hm]
  constructor
  · rintro ⟨_, c, ⟨d, hd, f, rfl, hf, hmarked, htakes⟩, hi⟩
    rw [h.intentOf?_eq hd hf] at hi
    exact ⟨d, hd, f, c, hf, hmarked, htakes, (Option.some.inj hi).symm⟩
  · rintro ⟨d, hd, f, c, hf, hmarked, htakes, rfl⟩
    exact ⟨d.id, c, ⟨d, hd, f, rfl, hf, hmarked, htakes⟩, h.intentOf?_eq hd hf⟩

theorem map_pair_intents (h : Lists s es) (hm : s.model? config id = some m) :
    m.intents.map (fun i => (i.decl, i.convention)) = s.intentPairs config m := by
  rw [intents_eq_filterMap hm, List.map_filterMap]
  refine (List.filterMap_congr ?_).trans List.filterMap_some
  rintro ⟨i, c⟩ hmem
  obtain ⟨d, hd, f, rfl, hf, -⟩ := (h.mem_intentPairs hm).mp hmem
  simp only [h.intentOf?_eq hd hf, Option.map_some, intent]

/-- Intents of one declaration are the same. -/
theorem eq_of_decl_eq (h : Lists s es) (hm : s.model? config id = some m) {i j : Intent}
    (hi : i ∈ m.intents) (hj : j ∈ m.intents) (hij : i.decl = j.decl) : i = j := by
  obtain ⟨d, hd, f, c, hf, -, htakes, rfl⟩ := (h.mem_intents_iff hm).mp hi
  obtain ⟨d', hd', f', c', hf', -, htakes', rfl⟩ := (h.mem_intents_iff hm).mp hj
  obtain ⟨rfl, rfl, rfl⟩ := h.wellNumbered.eq_of_takesModel hd hd' hij hf hf' htakes htakes'
  rfl

/-! ## The order of the intents -/

theorem pairwise_freeIntentIds (h : Lists s es) :
    (s.freeIntentIds config id).Pairwise s.NoLater := by
  unfold freeIntentIds
  apply h.pairwise_filterMap_functionsAnnotated fun i => i
  intro d f i hpick
  simp only [Option.ite_none_right_eq_some, Option.some.injEq] at hpick
  exact hpick.2.symm

theorem pairwise_receiverIntentIds (h : Lists s es) :
    (s.receiverIntentIds config id).Pairwise fun a b => s.NoLater a.1 b.1 := by
  unfold receiverIntentIds
  split
  · exact .nil
  · apply List.Pairwise.sublist firstOfEach_sublist
    apply h.pairwise_filterMap_functionsAnnotated Prod.fst
    intro d f pair hpair
    obtain ⟨_, -, rfl⟩ := Option.map_eq_some_iff.mp hpair
    rfl

/-- The free intents come first, both groups are in the order of the source, and in the second one
no declaration comes twice. -/
theorem exists_split_intents (h : Lists s es) (hm : s.model? config id = some m) :
    ∃ free received, m.intents = free ++ received ∧
      (∀ i ∈ free, i.convention = .free) ∧ (∀ i ∈ received, i.convention ≠ .free) ∧
      free.Pairwise (fun i j => s.NoLater i.decl j.decl) ∧
      received.Pairwise (fun i j => s.NoLater i.decl j.decl ∧ i.decl ≠ j.decl) := by
  obtain ⟨free, received, hsplit, hfree, hreceived⟩ :=
    List.map_eq_append_iff.mp (h.map_pair_intents hm)
  refine ⟨free, received, hsplit, ?_, ?_, ?_, ?_⟩
  · intro i hi
    have hpair := List.mem_map_of_mem (f := fun i => (i.decl, i.convention)) hi
    rw [hfree] at hpair
    obtain ⟨_, -, heq⟩ := List.mem_map.mp hpair
    exact (congrArg Prod.snd heq).symm
  · intro i hi hc
    have hpair := List.mem_map_of_mem (f := fun i => (i.decl, i.convention)) hi
    rw [hreceived, h.mem_receiverIntentIds hm, hc] at hpair
    cases hpair.1
  · have horder : (s.freeIntentIds config m.decl).Pairwise s.NoLater :=
      h.pairwise_freeIntentIds
    have hids := congrArg (List.map Prod.fst) hfree
    simp only [List.map_map, Function.comp_def, List.map_id'] at hids
    rwa [← hids, List.pairwise_map] at horder
  · have horder : (s.receiverIntentIds config m.decl).Pairwise fun a b => s.NoLater a.1 b.1 :=
      h.pairwise_receiverIntentIds
    have hnodup : ((s.receiverIntentIds config m.decl).map (·.1)).Nodup := nodup_receiverIntentIds
    rw [← hreceived, List.pairwise_map] at horder
    rw [← hreceived, List.map_map, List.Nodup, List.pairwise_map] at hnodup
    exact horder.and hnodup

/-! ## How often an intent is listed -/

/-- A free function is listed as often as it carries the annotation. -/
theorem count_freeIntentIds (h : Lists s es) (hd : d ∈ s.declarations)
    (hmem : d.id ∈ s.freeIntentIds config id) :
    (s.freeIntentIds config id).count d.id = d.timesMarked config.annotations.intent := by
  unfold freeIntentIds at hmem ⊢
  exact h.count_filterMap_functionsAnnotated
    (fun d f => d.parent.isNone ∧ f.receiver.isNone ∧
      f.parameters.head?.map (·.type) = some (s.starProjectedType id)) hd hmem

/-- A function that takes the model is listed once, a free one as often as it is marked. -/
theorem count_decl_intents (h : Lists s es) (hm : s.model? config id = some m)
    (hd : d ∈ s.declarations) (hf : d.function? = some f)
    (hmarked : 0 < d.timesMarked config.annotations.intent) (htakes : s.TakesModel m d f c) :
    (m.intents.map (·.decl)).count d.id =
      if c = .free then d.timesMarked config.annotations.intent else 1 := by
  have hids : m.intents.map (·.decl) = (s.freeIntentIds config m.decl) ++
      (s.receiverIntentIds config m.decl).map (·.1) := by
    have hpairs := congrArg (List.map Prod.fst) (h.map_pair_intents hm)
    simpa [intentPairs, Function.comp_def] using hpairs
  have hunique {d' : Declaration} {f' : FunctionShape} {c' : Convention}
      (hd' : d' ∈ s.declarations) (hid : d'.id = d.id) (hf' : d'.function? = some f')
      (htakes' : s.TakesModel m d' f' c') : c' = c :=
    (h.wellNumbered.eq_of_takesModel hd' hd hid hf' hf htakes' htakes).2.2
  rw [hids, List.count_append]
  by_cases hc : c = .free
  · subst hc
    have hfree : d.id ∈ s.freeIntentIds config m.decl :=
      h.mem_freeIntentIds.mpr ⟨d, hd, f, rfl, hf, hmarked, htakes⟩
    have hnone : d.id ∉ (s.receiverIntentIds config m.decl).map (·.1) := by
      intro hmem
      obtain ⟨⟨_, c'⟩, hpair, rfl⟩ := List.mem_map.mp hmem
      obtain ⟨hc', d', hd', f', hid, hf', -, htakes'⟩ := (h.mem_receiverIntentIds hm).mp hpair
      rw [hunique hd' hid hf' htakes'] at hc'
      cases hc'
    rw [h.count_freeIntentIds hd hfree, List.count_eq_zero_of_not_mem hnone, if_pos rfl,
      Nat.add_zero]
  · have hreceiver : c.onReceiver = true := by
      cases c with
      | free => exact absurd rfl hc
      | method => rfl
      | extension => rfl
    have hlisted : d.id ∈ (s.receiverIntentIds config m.decl).map (·.1) :=
      List.mem_map_of_mem (f := Prod.fst)
        ((h.mem_receiverIntentIds hm).mpr ⟨hreceiver, d, hd, f, rfl, hf, hmarked, htakes⟩)
    have hnone : d.id ∉ s.freeIntentIds config m.decl := by
      intro hmem
      obtain ⟨d', hd', f', hid, hf', -, htakes'⟩ := (h.mem_freeIntentIds (m := m)).mp hmem
      exact hc (hunique hd' hid hf' htakes').symm
    rw [List.count_eq_zero_of_not_mem hnone,
      List.count_eq_one_of_mem nodup_receiverIntentIds hlisted, if_neg hc]

/-- An intent is listed once unless it is a free function that is marked again. -/
theorem count_decl_eq_one_iff (h : Lists s es) (hm : s.model? config id = some m) {i : Intent}
    (hi : i ∈ m.intents) :
    (m.intents.map (·.decl)).count i.decl = 1 ↔ ¬ s.MarkedAgain config i := by
  obtain ⟨d, hd, f, c, hf, hmarked, htakes, rfl⟩ := (h.mem_intents_iff hm).mp hi
  have hagain : s.MarkedAgain config (intent config d f c) ↔
      c = .free ∧ 1 < d.timesMarked config.annotations.intent := by
    unfold MarkedAgain
    refine and_congr_right fun _ => ⟨?_, fun hmany => ⟨d, hd, rfl, hmany⟩⟩
    rintro ⟨d', hd', hid, hmany⟩
    obtain rfl := h.wellNumbered.eq_of_id_eq hd' hd hid
    exact hmany
  have hcount := h.count_decl_intents hm hd hf hmarked htakes
  rw [hagain, show (intent config d f c).decl = d.id from rfl, hcount]
  split
  · rename_i hc
    simp only [hc, true_and]
    omega
  · rename_i hc
    simp only [hc, false_and, not_false_eq_true]

/-- The name of an intent is its own when no other declaration has it and the intent is listed
once. -/
theorem hasOwnName_iff (h : Lists s es) (hm : s.model? config id = some m) {i : Intent}
    (hi : i ∈ m.intents) :
    m.HasOwnName i ↔ (∀ j ∈ m.intents, j.name = i.name → j.decl = i.decl) ∧
      ¬ s.MarkedAgain config i := by
  have hsame (hother : ∀ j ∈ m.intents, j.name = i.name → j.decl = i.decl) :
      (m.intents.map (·.name)).count i.name = (m.intents.map (·.decl)).count i.decl := by
    rw [List.count, List.count, List.countP_map, List.countP_map]
    apply List.countP_congr
    intro j hj
    simp only [Function.comp_apply, beq_iff_eq]
    constructor
    · exact hother j hj
    · intro hdecl
      rw [h.eq_of_decl_eq hm hj hi hdecl]
  rw [← h.count_decl_eq_one_iff hm hi]
  unfold Model.HasOwnName
  constructor
  · intro hown
    have hother : ∀ j ∈ m.intents, j.name = i.name → j.decl = i.decl := by
      intro j hj hname
      rw [Model.HasOwnName.eq_of_name_eq hown hi hj hname.symm]
    exact ⟨hother, hsame hother ▸ hown⟩
  · rintro ⟨hother, hone⟩
    rw [hsame hother, hone]

end Lists

/-! ## The law of the intents -/

/-- The intents of a model are exactly the functions that carry the annotation and take the model.
The free functions come first, both groups are in the order of the source, and those that are called
on the model are listed once. No declaration is listed twice unless a free function carries the
annotation more than once. Hence an intent is dropped only when another declaration of the model has
its name, or for carrying the annotation more than once. -/
theorem intents_are_listed_once_unless_marked_again {files : List SourceFile}
    (hs : ofFiles files = .ok s) (config : Config) (hm : s.model? config id = some m) :
    (∀ i, i ∈ m.intents ↔ s.IsIntent config m i) ∧
    (∃ free received, m.intents = free ++ received ∧
      (∀ i ∈ free, i.convention = .free) ∧ (∀ i ∈ received, i.convention ≠ .free) ∧
      free.Pairwise (fun i j => s.NoLater i.decl j.decl) ∧
      received.Pairwise (fun i j => s.NoLater i.decl j.decl ∧ i.decl ≠ j.decl)) ∧
    ((m.intents.map (·.decl)).Nodup ↔ ∀ i ∈ m.intents, ¬ s.MarkedAgain config i) ∧
    ∀ i ∈ m.intents, i ∉ m.distinctIntents ↔
      (∃ j ∈ m.intents, j.decl ≠ i.decl ∧ j.name = i.name) ∨ s.MarkedAgain config i := by
  have h := lists_ofFiles hs
  refine ⟨fun i => h.mem_intents_iff hm, h.exists_split_intents hm, ?_, ?_⟩
  · rw [List.nodup_iff_count_eq_one]
    simp only [List.mem_map, forall_exists_index, and_imp, forall_apply_eq_imp_iff₂]
    exact forall₂_congr fun i hi => h.count_decl_eq_one_iff hm hi
  · intro i hi
    rw [Model.distinctIntents_eq_filter, List.mem_filter, decide_eq_true_iff,
      h.hasOwnName_iff hm hi]
    simp only [hi, true_and, not_and_or, not_not, not_forall, exists_prop]
    refine or_congr_left (exists_congr fun j => and_congr_right fun _ => ?_)
    exact and_comm

/-- A switch with a method that carries the annotation twice, an extension in another class, and a
free function that carries the annotation some times. -/
def switchFile (times : Nat) : SourceFile where
  path := "app/Switch.kt"
  package := "app"
  declarations :=
    let names : AnnotationNames := {}
    let switch : TypeRef := { name := "app.Switch" }
    let intent (name : String) : Node :=
      Node.functionNamed name |>.annotated { name := names.intent }
    [Node.classNamed "Switch" |>.annotated { name := names.model }
      |>.withMember (intent "press" |>.annotated { name := names.intent }),
    Node.classNamed "Tools" |>.withMember (intent "flip" |>.onReceiver switch),
    (List.replicate times { name := names.intent }).foldl (fun node use => node.annotated use)
      (Node.functionNamed "reset" |>.withParameter "switch" switch)]

theorem the_switch_lists_each_intent_once : ∃ s id m, ofFiles [switchFile 1] = .ok s ∧
    s.model? {} id = some m ∧
    m.intents.map (fun i => (i.name, i.convention)) =
      [("reset", .free), ("press", .method), ("flip", .extension)] ∧
    (∀ i ∈ m.intents, s.IsIntent {} m i) ∧ (m.intents.map (·.decl)).Nodup ∧
    ∀ i ∈ m.intents, ¬ s.MarkedAgain {} i ∧ i ∈ m.distinctIntents := by
  obtain ⟨s, hs, m, hm, hintents, hnodup, hdistinct⟩ :=
    exists_ofFiles_singleton (switchFile 1) (fun s => ∃ m ∈ s.models {},
      m.intents.map (fun i => (i.name, i.convention)) =
        [("reset", .free), ("press", .method), ("flip", .extension)] ∧
      (m.intents.map (·.decl)).Nodup ∧ ∀ i ∈ m.intents, i ∈ m.distinctIntents)
      (by decide +kernel)
  obtain ⟨id, -, hid⟩ := List.mem_filterMap.mp hm
  obtain ⟨hmem, -, honce, -⟩ := intents_are_listed_once_unless_marked_again hs {} hid
  refine ⟨s, id, m, hs, hid, hintents, fun i => (hmem i).mp, hnodup, ?_⟩
  intro i hi
  exact ⟨honce.mp hnodup i hi, hdistinct i hi⟩

/-- A free function that carries the annotation twice is listed twice, and gets no wrapper though no
other function has its name. -/
theorem the_reset_is_listed_twice : ∃ s, ofFiles [switchFile 2] = .ok s ∧ ∃ m ∈ s.models {},
    m.intents.map (fun i => (i.name, i.convention)) =
      [("reset", .free), ("reset", .free), ("press", .method), ("flip", .extension)] ∧
    ¬ (m.intents.map (·.decl)).Nodup ∧
    (∀ i ∈ m.intents, ∀ j ∈ m.intents, j.name = i.name → j.decl = i.decl) ∧
    m.distinctIntents.map (·.name) = ["press", "flip"] := by
  exact exists_ofFiles_singleton _ _ (by decide +kernel)

end BoundaryGen.Snapshot
