-- The types of the values that a wrapper hands to a retriever. A value can be read at the type that
-- was found for it when nothing on the way to it may be missing: the pair that it is taken from is
-- not nullable, and the function that is called for it is really called.
import Mathlib
import BoundaryGen.Proofs.Generation.Inspection
import BoundaryGen.Proofs.Snapshot.Assignability
import BoundaryGen.Proofs.Wrapper.Provider

namespace BoundaryGen

/-! ## Values that can be read -/

/-- Values of the argument can be read: its projection, if it has any, is outward. -/
def TypeArgument.IsReadable (a : TypeArgument) : Prop :=
  a.variance = .invariant ∨ a.variance = .outward

instance : DecidablePred TypeArgument.IsReadable := fun _ => inferInstanceAs (Decidable (_ ∨ _))

/-- The element `i` of a value of a type can be read, and has another type: the first is a pair
type that is not nullable. -/
def TypeRef.HasElement (config : Config) (pair : TypeRef) (i : Nat) (type : TypeRef) : Prop :=
  pair.nullable = false ∧ pair.name = config.pairType ∧
    ∃ a ∈ pair.arguments[i]?, a.IsReadable ∧ a.type = some type

/-- The place of an element in a pair, by the name of its property. -/
def elementIndex? (name : String) : Option Nat :=
  if name = "first" then some 0 else if name = "second" then some 1 else none

/-- The function that is called for a value. -/
def ValueSource.provider? : ValueSource → Option DeclId
  | .method id _ _ | .companion id _ _ => some id
  | .returned _ | .inPair _ | .absent _ => none

namespace Snapshot

variable {s : Snapshot} {es : List SourceEntry} {config : Config} {w : Wish}
variable {function m : Declaration} {site : Site} {step : RetrieveStep}
variable {type : TypeRef} {name : String} {v : ValueSource} {context : Kotlin.Context}

/-- The type of an expression, and the function that is called for its value, if any is. -/
inductive HasType (s : Snapshot) (config : Config) (context : Kotlin.Context) :
    Kotlin.Expr → Option DeclId → TypeRef → Prop
  | var {x : String} {type : TypeRef} :
    context x = some type → HasType s config context (.var x) none type
  | element {e : Kotlin.Expr} {called : Option DeclId} {pair type : TypeRef} {name : String}
    {i : Nat} : HasType s config context e called pair → elementIndex? name = some i →
    pair.HasElement config i type → HasType s config context (.property e name) called type
  | call {e : Kotlin.Expr} {d : Declaration} {type : TypeRef} :
    s.Calls context e d → d ∈ s.declarations → returnType? d = some type →
    HasType s config context e (some d.id) type

theorem hasType_var_iff {x : String} {called : Option DeclId} :
    s.HasType config context (.var x) called type ↔ called = none ∧ context x = some type := by
  constructor
  · rintro (h | _ | ⟨⟨⟩⟩)
    exact ⟨rfl, h⟩
  · rintro ⟨rfl, h⟩
    exact .var h

theorem hasType_property_iff {x : String} {called : Option DeclId} {i : Nat}
    (hname : elementIndex? name = some i) :
    s.HasType config context (.property (.var x) name) called type ↔
      called = none ∧ ∃ pair, context x = some pair ∧ pair.HasElement config i type := by
  constructor
  · intro h
    cases h with
    | element hpair hname' helement =>
      rw [hname, Option.some.injEq] at hname'
      subst hname'
      obtain ⟨rfl, hcontext⟩ := hasType_var_iff.mp hpair
      exact ⟨rfl, _, hcontext, helement⟩
    | call hcalls => cases hcalls
  · rintro ⟨rfl, pair, hpair, helement⟩
    exact .element (.var hpair) hname helement

/-- An expression has the type that a declared function returns, by a call of this function. -/
theorem WellNumbered.hasType_call_iff (hw : WellNumbered s) {d : Declaration}
    (hd : d ∈ s.declarations) (hreturn : returnType? d = some type) {e : Kotlin.Expr}
    (he : ∀ inner property, e ≠ .property inner property) :
    s.HasType config context e (some d.id) type ↔ s.Calls context e d := by
  constructor
  · intro h
    generalize hcalled : some d.id = called at h
    cases h with
    | var => cases hcalled
    | element => exact absurd rfl (he _ _)
    | @call _ d' _ hcalls hd' =>
      obtain rfl := hw.eq_of_id_eq hd hd' (Option.some.inj hcalled)
      exact hcalls
  · intro hcalls
    exact .call hcalls hd hreturn

/-! ## Steps that hand values over -/

/-- A step hands over what a function of a model returned: under the variables in sight the result
has the type that the function returns, and for an intent a variable holds the model. -/
structure HandsOver (function m : Declaration) (site : Site) (context : Kotlin.Context)
    (step : RetrieveStep) : Prop where
  source : context step.source = returnType? function
  modelName : step.modelName = m.qualifiedName
  modelVariable : site = .intent → ∃ x type, step.modelVariable = some x ∧
    context x = some type ∧ type.nullable = false ∧ type.name = m.qualifiedName

/-- The types of the variables of a wrapper: the result of its function, and the model. -/
def wrapperContext (function : Declaration) (modelType : TypeRef) : Kotlin.Context := fun x =>
  if x = resultVariable then returnType? function
  else if x = modelVariable then some modelType
  else none

/-- A step that asks a retriever comes from the binding of its wrapper. -/
theorem exists_of_mem_retrieves {model : Model} {intent : Option Intent}
    {binding : Option Binding} {later : Bool}
    (h : step ∈ (resultSteps model intent binding later).filterMap Step.retrieve?) :
    ∃ b, binding = some b ∧ retrieveStep b model intent = .retrieve step := by
  unfold resultSteps at h
  cases binding with
  | none => simp [filterMap_closingSteps Step.Closing.retrieve?] at h
  | some b =>
    simp only [retrieveStep, List.filterMap_cons_some (show Step.retrieve? (.retrieve _) = some _
      from rfl), filterMap_closingSteps Step.Closing.retrieve?, List.mem_singleton] at h
    exact ⟨b, rfl, congrArg Step.retrieve h.symm⟩

/-- The binding of a function that is declared, for a model that is declared. -/
theorem exists_of_bindingFor {model : Model} {i : DeclId} {usesRetriever : Bool} {b : Binding}
    (h : bindingFor s config model site i usesRetriever = .ok (some b)) :
    ∃ function m, s.get? i = some function ∧ s.get? model.decl = some m ∧
      findRetriever config function m = .ok b.retriever ∧
      b.info = s.infoSource config b.retriever function m.id site ∧
      b.data = s.dataSource config function m.id site := by
  unfold bindingFor at h
  split at h
  · obtain ⟨b', hbind, hb⟩ := exists_of_map_eq_ok h
    cases hb
    unfold bindAt at hbind
    split at hbind
    · rename_i function m hfunction hm
      unfold bind at hbind
      rcases hfind : findRetriever config function m with e | retriever
      · rw [hfind] at hbind
        cases hbind
      · rw [hfind] at hbind
        cases hbind
        exact ⟨function, m, hfunction, hm, hfind, rfl, rfl⟩
    · cases hbind
  · cases h

/-- The step made from a binding hands over what the function of the binding returned. -/
theorem WellNumbered.handsOver_of_bindingFor (hw : WellNumbered s) {id i : DeclId} {model : Model}
    (hm : s.model? config id = some model) {intent : Option Intent} {usesRetriever : Bool}
    {b : Binding} (hsite : site = .intent → intent.isSome)
    (hb : bindingFor s config model site i usesRetriever = .ok (some b))
    (hstep : retrieveStep b model intent = .retrieve step) :
    ∃ function ∈ s.declarations, ∃ m ∈ s.declarations, m.id = id ∧
      HandsOver function m site (wrapperContext function model.type) step ∧
      step.info = s.infoSource config step.retriever function m.id site ∧
      step.data = s.dataSource config function m.id site := by
  obtain ⟨function, m, hfunction, hget, -, hinfo, hdata⟩ := exists_of_bindingFor hb
  simp only [model?, Option.bind_eq_bind, Option.bind_eq_some_iff, Option.pure_def,
    Option.some.injEq] at hm
  obtain ⟨m', hget', rfl⟩ := hm
  obtain rfl := Option.some.inj (hget'.symm.trans hget)
  cases hstep
  refine ⟨function, mem_declarations_of_get? hfunction, m', mem_declarations_of_get? hget,
    hw.id_eq hget, ⟨?_, rfl, ?_⟩, hinfo, hdata⟩
  · exact if_pos rfl
  · intro h
    obtain ⟨i, rfl⟩ := Option.isSome_iff_exists.mp (hsite h)
    have htype : s.starProjectedType id =
        .starProjected m'.qualifiedName ((m'.class?.map (·.typeParameters.length)).getD 0) := by
      rw [starProjectedType, hget]
    refine ⟨modelVariable, s.starProjectedType id, rfl, rfl, ?_, ?_⟩
    · rw [htype]
      rfl
    · rw [htype]
      rfl

/-- What asks a retriever in a wrapper comes from a binding, for an intent in the wrapper of one. -/
theorem exists_bindingFor_of_mem_retrieves {model : Model} {w : Wrapper}
    (hwrapper : w ∈ (s.unit config model).1.wrappers) (hstep : step ∈ w.retrieves) :
    ∃ site i usesRetriever b intent,
      bindingFor s config model site i usesRetriever = .ok (some b) ∧
      retrieveStep b model intent = .retrieve step ∧ (site = .intent ↔ w.kind = .intent) ∧
      (intent.isSome = true ↔ w.kind = .intent) := by
  rcases mem_wrappers_unit hwrapper with ⟨i, -, hwrap⟩ | ⟨i, -, hwrap⟩
  · obtain ⟨binding, hbinding, rfl⟩ := exists_of_initWrapper hwrap
    rw [Wrapper.retrieves, wrapperOf, List.filterMap_append, retrieves_decodeSteps,
      List.nil_append, initSteps, List.filterMap_cons_none rfl] at hstep
    obtain ⟨b, rfl, hb⟩ := exists_of_mem_retrieves hstep
    exact ⟨.init, _, _, b, none, hbinding, hb, by simp [wrapperOf], by simp [wrapperOf]⟩
  · obtain ⟨binding, hbinding, rfl⟩ := exists_of_intentWrapper hwrap
    rw [Wrapper.retrieves, wrapperOf, List.filterMap_append, retrieves_decodeSteps,
      List.nil_append, intentSteps, List.filterMap_cons_none rfl] at hstep
    split at hstep
    · rw [List.filterMap_cons_none rfl] at hstep
      obtain ⟨b, rfl, hb⟩ := exists_of_mem_retrieves hstep
      exact ⟨.intent, _, _, b, some i, hbinding, hb, by simp [wrapperOf], by simp [wrapperOf]⟩
    · rw [List.filterMap_cons_none rfl, filterMap_closingSteps Step.Closing.retrieve?] at hstep
      cases hstep

/-- What asks a retriever in a wrapper hands over what the function of the wrapper returned, with
the info and the data that were found for it. -/
theorem WellNumbered.handsOver_of_mem_wrappers (hw : WellNumbered s) {id : DeclId} {model : Model}
    (hm : s.model? config id = some model) {w : Wrapper}
    (hwrapper : w ∈ (s.unit config model).1.wrappers) (hstep : step ∈ w.retrieves) :
    ∃ function ∈ s.declarations, ∃ m ∈ s.declarations, ∃ site, m.id = id ∧
      HandsOver function m site (wrapperContext function model.type) step ∧
      step.info = s.infoSource config step.retriever function m.id site ∧
      step.data = s.dataSource config function m.id site := by
  obtain ⟨site, i, usesRetriever, b, intent, hbinding, hb, hsite, hintent⟩ :=
    exists_bindingFor_of_mem_retrieves hwrapper hstep
  obtain ⟨function, hfunction, m, hmem, hrest⟩ :=
    hw.handsOver_of_bindingFor hm (fun h => hintent.mpr (hsite.mp h)) hbinding hb
  exact ⟨function, hfunction, m, hmem, site, hrest⟩

/-! ## Types of the values -/

/-- A value can be read where it was found: it is what the function returned, or an element of a
pair, or a function is called for it. -/
def ReadableAt (s : Snapshot) (config : Config) (function m : Declaration) (element : Nat) :
    ValueSource → Prop
  | .returned _ => True
  | .inPair type => ∃ pair ∈ returnType? function, pair.HasElement config element type
  | .method id _ _ => ∃ d ∈ s.declarations, d.id = id ∧ IsPlainFunction d
  | .companion id _ _ => ∃ d ∈ s.declarations, d.id = id ∧ s.InCompanionOf m.id d
  | .absent _ => False

/-- The expression for a value that was found has the type of the value exactly when the value can
be read, and this type fits. -/
theorem WellNumbered.hasType_valueFrom_iff (hw : WellNumbered s) (hm : m ∈ s.declarations)
    (hstep : HandsOver function m site context step)
    (hfound : w.Found s config function m.id site v) (hname : elementIndex? name = some w.element)
    (neutral : Kotlin.Expr) :
    ∃ type, v.type? = some type ∧ w.Fits type ∧
      (s.HasType config context (Kotlin.valueFrom step name neutral v) v.provider? type ↔
        s.ReadableAt config function m w.element v) := by
  rcases Wish.found_iff.mp hfound with ⟨type, hreturn, hfits, rfl⟩ |
    ⟨pair, type, hreturn, -, -, hfits, rfl⟩ |
    ⟨hsite, d, type, ⟨⟨hd, -, hreturn, hfits⟩, hparent, -⟩, rfl⟩ |
    ⟨d, type, ⟨⟨hd, -, hreturn, hfits⟩, hbelow, -⟩, rfl⟩
  · refine ⟨type, rfl, hfits, iff_of_true (.var ?_) trivial⟩
    rw [hstep.source, hreturn]
  · refine ⟨type, rfl, hfits, ?_⟩
    rw [← hstep.source] at hreturn
    simp only [Kotlin.valueFrom, ValueSource.provider?, hasType_property_iff hname, ReadableAt,
      ← hstep.source, Option.mem_def, true_and]
  · refine ⟨type, rfl, hfits, ?_⟩
    obtain ⟨x, modelType, hx, hcontext, hnonnull, hmodel⟩ := hstep.modelVariable hsite
    simp only [Kotlin.valueFrom, hx]
    refine (hw.hasType_call_iff hd hreturn (fun _ _ => by simp)).trans ⟨?_, ?_⟩
    · intro hcalls
      exact ⟨d, hd, rfl, hcalls.isPlainFunction⟩
    · rintro ⟨d', hd', hid, hplain⟩
      obtain rfl := hw.eq_of_id_eq hd' hd hid
      exact .method hplain hm hparent hcontext hnonnull hmodel
  · refine ⟨type, rfl, hfits, ?_⟩
    refine (hw.hasType_call_iff hd hreturn (fun _ _ => by simp [Kotlin.valueFrom])).trans ?_
    rw [hw.calls_iff_inCompanionOf hm hbelow hstep.modelName]
    constructor
    · intro hcompanion
      exact ⟨d, hd, rfl, hcompanion⟩
    · rintro ⟨d', hd', hid, hcompanion⟩
      rwa [← hw.eq_of_id_eq hd' hd hid]

/-! ## The law of the types -/

/-- Data that is not absent has a type that is not nullable and serves as retriever data. The
expression that is written for it has this type exactly when the data can be read: a pair that it
is taken from is not nullable, and a function that it is asked of extends no type and, when it
stands one class deeper than the model, stands in the companion object. Info has the type that the
retriever wants, under the same condition. -/
theorem data_is_handed_over_at_a_type_that_serves {files : List SourceFile}
    (hs : ofFiles files = .ok s) (config : Config) (retriever : TypeRef) (hm : m ∈ s.declarations)
    (hstep : HandsOver function m site context step) (neutral : Kotlin.Expr) :
    (∀ v, s.dataSource config function m.id site = v → (∀ type, v ≠ .absent type) →
      ∃ type, v.type? = some type ∧ type.nullable = false ∧
        s.LeadsTo type.name config.retrieverDataType ∧
        (s.HasType config context (Kotlin.valueFrom step "second" neutral v) v.provider? type ↔
          s.ReadableAt config function m 1 v)) ∧
    ∀ v, s.infoSource config retriever function m.id site = v → (∀ type, v ≠ .absent type) →
      ∃ type, v.type? = some type ∧ s.WantsInfo retriever type ∧
        (s.HasType config context (Kotlin.valueFrom step "first" neutral v) v.provider? type ↔
          s.ReadableAt config function m 0 v) := by
  have h := lists_ofFiles hs
  have hw := h.wellNumbered
  constructor
  · intro v hv hpresent
    rcases h.dataSource_found hv with ⟨t, habsent⟩ | hfound
    · exact absurd habsent (hpresent t)
    have hname : elementIndex? "second" = some (s.dataWish config).element := rfl
    obtain ⟨type, htype, hfits, hiff⟩ := hw.hasType_valueFrom_iff hm hstep hfound hname neutral
    obtain ⟨hnonnull, hleads⟩ := hw.isAssignable_iff.mp hfits
    exact ⟨type, htype, hnonnull, hleads, hiff⟩
  · intro v hv hpresent
    rcases h.infoSource_found hv with ⟨t, habsent⟩ | ⟨wanted, hwanted, hfound⟩
    · exact absurd habsent (hpresent t)
    have hname : elementIndex? "first" = some (infoWish config wanted).element := rfl
    obtain ⟨type, htype, rfl, hiff⟩ := hw.hasType_valueFrom_iff hm hstep hfound hname neutral
    exact ⟨type, htype, hwanted, hiff⟩

/-- A pair of info and data for the retriever of a letter. -/
def answerType (nullable : Bool) : TypeRef where
  name := "kotlin.Pair"
  arguments := [{ type := some { name := "app.Info" } }, { type := some { name := "app.Data" } }]
  nullable

/-- A letter with an intent that asks a retriever and returns what it is to be handed. -/
def letterFile (nullable : Bool) : SourceFile where
  path := "app/Letter.kt"
  package := "app"
  declarations :=
    let names : AnnotationNames := {}
    [Node.classNamed "Data" |>.withSuperType { name := libraryPackage ++ ".RetrieverData" },
    Node.classNamed "Http" |>.withSuperType
      (.ofArguments (libraryPackage ++ ".Retriever") [{ name := "app.Info" }]),
    Node.classNamed "Letter"
      |>.annotated { name := names.model }
      |>.annotated ⟨names.retrieveWith, [⟨none, .type { name := "app.Http" }⟩]⟩
      |>.withMember (Node.functionNamed "send"
        |>.annotated ⟨names.intent, [⟨none, .flag true⟩]⟩
        |>.returning (answerType nullable))]

/-- The second of the pair that an intent returns is handed over as data. -/
theorem the_second_of_an_answer_is_data : ∃ s, ofFiles [letterFile false] = .ok s ∧
    ∃ model ∈ s.models {}, ∃ w ∈ (s.unit {} model).1.wrappers, ∃ step ∈ w.retrieves,
      ∃ function ∈ s.declarations, function.qualifiedName = "app.Letter.send" ∧
        s.HasType {} (wrapperContext function model.type)
          (Kotlin.valueFrom step "second" .null step.data) none { name := "app.Data" } := by
  obtain ⟨s, hs, ⟨model, hmodel, w, hw, step, hstep, hdata⟩, hsend⟩ :=
    exists_ofFiles_singleton (letterFile false) (fun s =>
      (∃ model ∈ s.models {}, ∃ w ∈ (s.unit {} model).1.wrappers,
        ∃ step ∈ w.retrieves, step.data = .inPair { name := "app.Data" }) ∧
      ∀ d ∈ s.declarations, ∀ m ∈ s.declarations, ∀ site ∈ [Site.init, Site.intent],
        s.dataSource {} d m.id site = .inPair { name := "app.Data" } →
          d.qualifiedName = "app.Letter.send" ∧ returnType? d = some (answerType false))
      (by decide +kernel)
  obtain ⟨id, -, hid⟩ := List.mem_filterMap.mp hmodel
  obtain ⟨function, hfunction, m, hm, site, -, hhands, -, hsource⟩ :=
    (lists_ofFiles hs).wellNumbered.handsOver_of_mem_wrappers hid hw hstep
  rw [hdata] at hsource
  obtain ⟨hname, hreturn⟩ := hsend function hfunction m hm site (by cases site <;> simp)
    hsource.symm
  obtain ⟨hlaw, -⟩ :=
    data_is_handed_over_at_a_type_that_serves hs {} { name := "app.Http" } hm hhands .null
  obtain ⟨type, htype, -, -, hiff⟩ := hlaw _ hsource.symm (fun _ => by simp)
  cases htype
  refine ⟨s, hs, model, hmodel, w, hw, step, hstep, function, hfunction, hname, ?_⟩
  rw [hdata]
  exact hiff.mpr ⟨answerType false, hreturn, rfl, rfl, ⟨_, _⟩, rfl, Or.inl rfl, rfl⟩

/-- Of a pair that may be missing no element can be read, and both are handed over. -/
theorem a_missing_answer_is_handed_over : ∃ s, ofFiles [letterFile true] = .ok s ∧
    ∃ model ∈ s.models {}, ∃ w ∈ (s.unit {} model).1.wrappers, ∃ step ∈ w.retrieves,
      step.info = .inPair { name := "app.Info" } ∧ step.data = .inPair { name := "app.Data" } ∧
      ∃ function ∈ s.declarations, function.qualifiedName = "app.Letter.send" ∧
        returnType? function = some (answerType true) ∧ ∀ called type,
          ¬ s.HasType {} (wrapperContext function model.type)
              (Kotlin.valueFrom step "first" .null step.info) called type ∧
          ¬ s.HasType {} (wrapperContext function model.type)
              (Kotlin.valueFrom step "second" .null step.data) called type := by
  obtain ⟨s, hs, ⟨model, hmodel, w, hw, step, hstep, hsource, hinfo, hdata⟩, function, hfunction,
      hname, hreturn⟩ :=
    exists_ofFiles_singleton (letterFile true) (fun s =>
      (∃ model ∈ s.models {}, ∃ w ∈ (s.unit {} model).1.wrappers,
        ∃ step ∈ w.retrieves, step.source = resultVariable ∧
          step.info = .inPair { name := "app.Info" } ∧
          step.data = .inPair { name := "app.Data" }) ∧
      ∃ d ∈ s.declarations, d.qualifiedName = "app.Letter.send" ∧
        returnType? d = some (answerType true)) (by decide +kernel)
  refine ⟨s, hs, model, hmodel, w, hw, step, hstep, hinfo, hdata, function, hfunction, hname,
    hreturn, ?_⟩
  have hnone {element : String} {i : Nat} (hi : elementIndex? element = some i)
      (called : Option DeclId) (type : TypeRef) : ¬ s.HasType {}
        (wrapperContext function model.type) (.property (.var step.source) element) called
        type := by
    rw [hasType_property_iff hi, hsource]
    rintro ⟨-, pair, hpair, hnonnull, -⟩
    obtain rfl := Option.some.inj (hreturn.symm.trans hpair)
    cases hnonnull
  intro called type
  rw [hinfo, hdata]
  exact ⟨hnone rfl called type, hnone rfl called type⟩

end Snapshot

end BoundaryGen
