-- The functions that provide info and data for a retriever, and what the written calls of them
-- mean. A function found inside the model, one class deeper, is called under the name of the model.
-- That is a call of it when the class around it is a companion object, and of any other class it
-- is not.
import Mathlib
import BoundaryGen.Proofs.Model.ValueSource
import BoundaryGen.Proofs.Snapshot.WrittenNames
import BoundaryGen.Proofs.Wrapper.CallTarget
import BoundaryGen.Wrapper.Kotlin

namespace BoundaryGen

/-- The types of the variables in sight. -/
abbrev Kotlin.Context := String → Option TypeRef

namespace Snapshot

variable {s : Snapshot} {es : List SourceEntry} {config : Config} {w : Wish}
variable {function d outer m : Declaration} {model id : DeclId} {site : Site}
variable {retriever type : TypeRef} {name : String} {v : ValueSource} {context : Kotlin.Context}

/-! ## Calls -/

/-- A function that extends no type. -/
def IsPlainFunction (d : Declaration) : Prop := ∃ f ∈ d.function?, f.receiver = none

instance : DecidablePred IsPlainFunction := fun d =>
  decidable_of_iff (d.function?.any (·.receiver = none) = true) <| by
    simp [IsPlainFunction, Option.any_eq_true]

/-- There is one instance of it, which its name stands for. -/
def IsObject (d : Declaration) : Prop :=
  d.isCompanion = true ∨ ∃ shape, d.class? = some shape ∧ shape.kind = .object

/-- The functions that an expression calls. A function at top level is called under its qualified
name, a function of an object behind the name of the object, a function of a companion object also
behind the name of the class around it, and a method on a variable whose type is its class. -/
inductive Calls (s : Snapshot) (context : Kotlin.Context) :
    Kotlin.Expr → Declaration → Prop
  | free {d : Declaration} {arguments : List Kotlin.Expr} :
    IsPlainFunction d → d.parent = none → Calls s context (.call d.qualifiedName arguments) d
  | ofObject {d object : Declaration} {arguments : List Kotlin.Expr} :
    IsPlainFunction d → object ∈ s.declarations → d.parent = some object.id → IsObject object →
    Calls s context (.call (object.qualifiedName ++ "." ++ d.simpleName) arguments) d
  | ofCompanion {d object owner : Declaration} {arguments : List Kotlin.Expr} :
    IsPlainFunction d → object ∈ s.declarations → owner ∈ s.declarations →
    d.parent = some object.id → object.parent = some owner.id → object.isCompanion = true →
    Calls s context (.call (owner.qualifiedName ++ "." ++ d.simpleName) arguments) d
  | method {d owner : Declaration} {x : String} {type : TypeRef} {arguments : List Kotlin.Expr} :
    IsPlainFunction d → owner ∈ s.declarations → d.parent = some owner.id →
    context x = some type → type.nullable = false → type.name = owner.qualifiedName →
    Calls s context (.member (.var x) d.simpleName arguments) d

theorem Calls.isPlainFunction {e : Kotlin.Expr} (h : s.Calls context e d) :
    IsPlainFunction d := by
  cases h <;> assumption

/-- The name of a class is longer than the name of the class that it stands in. -/
theorem WellNumbered.qualifiedName_ne_of_parent (hw : WellNumbered s) (ho : outer ∈ s.declarations)
    (hm : m ∈ s.declarations) (hparent : outer.parent = some m.id) :
    outer.qualifiedName ≠ m.qualifiedName := by
  have hget := hw.get?_id ho
  obtain ⟨-, c, hc, -, hname⟩ := hw.parent hget hparent
  rw [hw.get?_id hm, Option.some.injEq] at hc
  subst hc
  have hlt := length_lt_qualify m.qualifiedName (hw.named hget)
  intro heq
  rw [← hname, heq] at hlt
  exact lt_irrefl _ hlt

/-- A function one class deeper than the model is called under the name of the model exactly when
the class around it is a companion object. -/
theorem WellNumbered.calls_call_iff (hw : WellNumbered s) (hm : m ∈ s.declarations)
    (ho : outer ∈ s.declarations) (hd : d.parent = some outer.id)
    (hparent : outer.parent = some m.id) {arguments : List Kotlin.Expr} :
    s.Calls context (.call (m.qualifiedName ++ "." ++ d.simpleName) arguments) d ↔
      outer.isCompanion = true ∧ IsPlainFunction d := by
  have houter {object : Declaration} (hobject : object ∈ s.declarations)
      (hp : d.parent = some object.id) : object = outer :=
    hw.eq_of_id_eq hobject ho (Option.some.inj (hp.symm.trans hd))
  constructor
  · intro h
    refine ⟨?_, h.isPlainFunction⟩
    generalize hcallee : m.qualifiedName ++ "." ++ d.simpleName = callee at h
    cases h with
    | free _ hnone =>
      rw [hnone] at hd
      cases hd
    | ofObject _ hobject hp _ =>
      rw [houter hobject hp] at hcallee
      have hname : m.qualifiedName = outer.qualifiedName := by
        simpa only [String.append_left_inj] using hcallee
      exact absurd hname.symm (hw.qualifiedName_ne_of_parent ho hm hparent)
    | ofCompanion _ hobject _ hp _ hcompanion =>
      rw [← houter hobject hp]
      exact hcompanion
  · rintro ⟨hcompanion, hplain⟩
    exact .ofCompanion hplain ho hm hd hparent hcompanion

/-! ## Sources that were found -/

namespace Wish

/-- A value is of one of the kinds that are looked for. -/
def Found (w : Wish) (s : Snapshot) (config : Config) (function : Declaration) (model : DeclId)
    (site : Site) (v : ValueSource) : Prop :=
  ∃ kind ∈ w.kinds s config function model site, kind v

theorem found_iff : w.Found s config function model site v ↔
    w.ReturnedBy function v ∨ w.InPairOf config function v ∨ w.FromMethod s model site v ∨
      w.FromCompanion s model v := by
  simp [Found, kinds]

theorem Found.of_companion
    (h : w.Found s config function model site (.companion id name type)) :
    ∃ d, w.Provides s d type ∧ s.StandsBelow model d ∧ d.id = id ∧ d.simpleName = name := by
  rcases found_iff.mp h with ⟨t, -, -, heq⟩ | ⟨pair, t, -, -, -, -, heq⟩ | ⟨-, d, t, -, heq⟩ |
    ⟨d, t, ⟨hprovides, hbelow, -⟩, heq⟩
  · cases heq
  · cases heq
  · cases heq
  · cases heq
    exact ⟨d, hprovides, hbelow, rfl, rfl⟩

end Wish

/-- What is tried is found, or the last resort is taken. -/
theorem exists_of_firstOf {α : Type} {lastResort a : α} {kinds : List (α → Prop)}
    (h : FirstOf lastResort kinds a) : a = lastResort ∨ ∃ kind ∈ kinds, kind a := by
  induction kinds with
  | nil => exact Or.inl h
  | cons kind kinds ih =>
    rcases h with h | ⟨-, h⟩
    · exact Or.inr ⟨kind, List.mem_cons_self, h⟩
    · refine (ih h).imp_right ?_
      rintro ⟨kind', hmem, hkind⟩
      exact ⟨kind', List.mem_cons_of_mem kind hmem, hkind⟩

/-- Info that is not absent was found, as the retriever wants it. -/
theorem Lists.infoSource_found (h : Lists s es)
    (hv : s.infoSource config retriever function model site = v) :
    (∃ type, v = .absent type) ∨ ∃ wanted, s.WantsInfo retriever wanted ∧
      (infoWish config wanted).Found s config function model site v := by
  unfold infoSource at hv
  split at hv
  · exact Or.inl ⟨none, hv.symm⟩
  · rename_i wanted hwanted
    have hfits : ∀ t, decide (t = wanted) = true ↔ (infoWish config wanted).Fits t :=
      fun _ => decide_eq_true_iff
    rcases exists_of_firstOf ((h.source?_iff hfits site _ v).mp hv) with hlast | hfound
    · exact Or.inl ⟨_, hlast⟩
    · exact Or.inr ⟨wanted, wantsInfo_iff.mpr hwanted, hfound⟩

/-- Data that is not absent was found. -/
theorem Lists.dataSource_found (h : Lists s es)
    (hv : s.dataSource config function model site = v) :
    (∃ type, v = .absent type) ∨
      (s.dataWish config).Found s config function model site v := by
  have hfits : ∀ t, s.isAssignable config.retrieverDataType t = true ↔
      (s.dataWish config).Fits t := fun _ => Iff.rfl
  rcases exists_of_firstOf ((h.source?_iff hfits site _ v).mp hv) with hlast | hfound
  · exact Or.inl ⟨_, hlast⟩
  · exact Or.inr hfound

/-! ## The law of the companion objects -/

/-- A function that carries the annotation for info or the one for data. -/
def MarkedAsProvider (config : Config) (d : Declaration) : Prop :=
  0 < d.timesMarked config.annotations.retrieveInfo ∨
    0 < d.timesMarked config.annotations.retrieveData

/-- A function of the companion object of a model, which extends no type. -/
def InCompanionOf (s : Snapshot) (model : DeclId) (d : Declaration) : Prop :=
  IsPlainFunction d ∧ ∃ object ∈ s.declarations, d.parent = some object.id ∧
    object.parent = some model ∧ object.isCompanion = true

instance : Decidable (s.InCompanionOf model d) :=
  inferInstanceAs (Decidable (_ ∧ ∃ object ∈ s.declarations, _))

/-- The call that is written for a function one class deeper than the model calls it exactly when it
stands in the companion object. -/
theorem WellNumbered.calls_iff_inCompanionOf (hw : WellNumbered s) (hm : m ∈ s.declarations)
    (hbelow : s.StandsBelow m.id d) {step : RetrieveStep} (hstep : step.modelName = m.qualifiedName)
    {element : String} {neutral : Kotlin.Expr} :
    s.Calls context
        (Kotlin.valueFrom step element neutral (.companion id d.simpleName type)) d ↔
      s.InCompanionOf m.id d := by
  obtain ⟨outer, ho, hd, hparent⟩ := hbelow
  rw [Kotlin.valueFrom, hstep, hw.calls_call_iff hm ho hd hparent]
  constructor
  · rintro ⟨hcompanion, hplain⟩
    exact ⟨hplain, outer, ho, hd, hparent, hcompanion⟩
  · rintro ⟨hplain, object, hobject, hd', -, hcompanion⟩
    obtain rfl := hw.eq_of_id_eq hobject ho (Option.some.inj (hd'.symm.trans hd))
    exact ⟨hcompanion, hplain⟩

/-- A source in the companion is an annotated function that returns the type and stands in a class
directly inside the model. The call that is written for it calls it exactly when this class is a
companion object and the function extends no type, which is so when all annotated functions at this
depth stand like that. -/
theorem companion_sources_are_called_in_companion_objects {files : List SourceFile}
    (hs : ofFiles files = .ok s) (config : Config) (retriever : TypeRef) (function : Declaration)
    (model : DeclId) (site : Site)
    (hsource : s.infoSource config retriever function model site = .companion id name type ∨
      s.dataSource config function model site = .companion id name type) :
    ∃ m ∈ s.declarations, ∃ d ∈ s.declarations, m.id = model ∧ d.id = id ∧ d.simpleName = name ∧
      returnType? d = some type ∧ MarkedAsProvider config d ∧ s.StandsBelow model d ∧
      (∀ context step element neutral, step.modelName = m.qualifiedName →
        (s.Calls context (Kotlin.valueFrom step element neutral (.companion id name type)) d ↔
          s.InCompanionOf model d)) ∧
      ((∀ d' ∈ s.declarations, MarkedAsProvider config d' → s.StandsBelow model d' →
        s.InCompanionOf model d') → s.InCompanionOf model d) := by
  have h := lists_ofFiles hs
  have hfound : ∃ d ∈ s.declarations, MarkedAsProvider config d ∧ returnType? d = some type ∧
      s.StandsBelow model d ∧ d.id = id ∧ d.simpleName = name := by
    rcases hsource with hinfo | hdata
    · obtain ⟨_, ⟨⟩⟩ | ⟨wanted, -, hfound⟩ := h.infoSource_found hinfo
      obtain ⟨d, ⟨hd, hmarked, hreturn, -⟩, hbelow, hid, hname⟩ := hfound.of_companion
      exact ⟨d, hd, Or.inl hmarked, hreturn, hbelow, hid, hname⟩
    · obtain ⟨_, ⟨⟩⟩ | hfound := h.dataSource_found hdata
      obtain ⟨d, ⟨hd, hmarked, hreturn, -⟩, hbelow, hid, hname⟩ := hfound.of_companion
      exact ⟨d, hd, Or.inr hmarked, hreturn, hbelow, hid, hname⟩
  obtain ⟨d, hd, hmarked, hreturn, hbelow, rfl, rfl⟩ := hfound
  obtain ⟨outer, ho, hparent, hmodel⟩ := hbelow
  obtain ⟨m, hm, rfl, -, -⟩ := h.wellNumbered.exists_parent ho hmodel
  have hbelow : s.StandsBelow m.id d := ⟨outer, ho, hparent, hmodel⟩
  refine ⟨m, hm, d, hd, rfl, rfl, rfl, hreturn, hmarked, hbelow, ?_, ?_⟩
  · intro context step element neutral hstep
    exact h.wellNumbered.calls_iff_inCompanionOf hm hbelow hstep
  · intro hall
    exact hall d hd hmarked hbelow

/-- The type of the data for the retriever of a scroll. -/
def scrollData : TypeRef := { name := libraryPackage ++ ".RetrieverData" }

/-- A scroll with a function for its data in a class inside it. -/
def scrollFile (holder : Node) : SourceFile where
  path := "app/Scroll.kt"
  package := "app"
  declarations :=
    let names : AnnotationNames := {}
    [Node.classNamed "Scroll" |>.withMember (holder |>.withMember
      (Node.functionNamed "query" |>.returning scrollData
        |>.annotated { name := names.retrieveData })),
    Node.functionNamed "load"]

/-- A scroll is asked for its data in its companion object, and the written call calls the function
that stands there. -/
theorem the_companion_of_a_scroll_is_called : ∃ s, ofFiles [scrollFile Node.companion] = .ok s ∧
    ∃ m ∈ s.declarations, ∃ d ∈ s.declarations, ∃ load ∈ s.declarations,
      m.qualifiedName = "app.Scroll" ∧ load.qualifiedName = "app.load" ∧
      s.dataSource {} load m.id .init = .companion d.id "query" scrollData ∧
      s.InCompanionOf m.id d ∧
      ∀ step : RetrieveStep, step.modelName = "app.Scroll" →
        s.Calls (fun _ => none) (Kotlin.valueFrom step "second" .null
          (.companion d.id "query" scrollData)) d := by
  obtain ⟨s, hs, load, hload, hname, hsource, hplaced⟩ :=
    exists_ofFiles_singleton (scrollFile Node.companion) (fun s =>
      ∃ load ∈ s.declarations, load.qualifiedName = "app.load" ∧
        s.dataSource {} load 0 .init = .companion 2 "query" scrollData ∧
        ∀ d ∈ s.declarations, (d.id = 0 → d.qualifiedName = "app.Scroll") ∧
          (d.id = 2 → s.InCompanionOf 0 d)) (by decide +kernel)
  obtain ⟨m, hm, d, hd, hmodel, hid, -, -, -, -, hcalls, -⟩ :=
    companion_sources_are_called_in_companion_objects hs {} { name := "app.Http" } load 0 .init
      (Or.inr hsource)
  have hcompanion := (hplaced d hd).2 hid
  have hscroll := (hplaced m hm).1 hmodel
  rw [← hmodel, ← hid] at hsource
  rw [← hmodel] at hcompanion hcalls
  rw [← hid] at hcalls
  refine ⟨s, hs, m, hm, d, hd, load, hload, hscroll, hname, hsource, hcompanion, ?_⟩
  intro step hstep
  exact (hcalls _ step "second" .null (hstep.trans hscroll.symm)).mpr hcompanion

/-- A class inside the scroll that is no companion object is taken for one, and then the written
call does not call the function that was found. -/
theorem the_helper_of_a_scroll_is_no_companion :
    ∃ s, ofFiles [scrollFile (Node.classNamed "Helper")] = .ok s ∧
    ∃ m ∈ s.declarations, ∃ d ∈ s.declarations, ∃ load ∈ s.declarations,
      m.qualifiedName = "app.Scroll" ∧ d.qualifiedName = "app.Scroll.Helper.query" ∧
      s.dataSource {} load m.id .init = .companion d.id "query" scrollData ∧
      (∀ object ∈ s.declarations, d.parent = some object.id → object.isCompanion = false) ∧
      ∀ context, ∀ step : RetrieveStep, step.modelName = "app.Scroll" →
        ¬ s.Calls context (Kotlin.valueFrom step "second" .null
          (.companion d.id "query" scrollData)) d := by
  obtain ⟨s, hs, m, hm, d, hd, load, hload, hscroll, hquery, hname, hsource, hobject, houter⟩ :=
    exists_ofFiles_singleton (scrollFile (Node.classNamed "Helper")) (fun s =>
      ∃ m ∈ s.declarations, ∃ d ∈ s.declarations, ∃ load ∈ s.declarations,
        m.qualifiedName = "app.Scroll" ∧ d.qualifiedName = "app.Scroll.Helper.query" ∧
        d.simpleName = "query" ∧
        s.dataSource {} load m.id .init = .companion d.id "query" scrollData ∧
        (∀ object ∈ s.declarations, d.parent = some object.id → object.isCompanion = false) ∧
        ∃ outer ∈ s.declarations, d.parent = some outer.id ∧ outer.parent = some m.id)
      (by decide +kernel)
  refine ⟨s, hs, m, hm, d, hd, load, hload, hscroll, hquery, hsource, hobject, ?_⟩
  intro context step hstep hcalls
  rw [← hname, (lists_ofFiles hs).wellNumbered.calls_iff_inCompanionOf hm houter
    (hstep.trans hscroll.symm)] at hcalls
  obtain ⟨-, object, hmem, hparent, -, hcompanion⟩ := hcalls
  rw [hobject object hmem hparent] at hcompanion
  cases hcompanion

end Snapshot

end BoundaryGen
