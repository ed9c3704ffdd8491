-- The names that are written for the steps of a wrapper. Apart from its own variables they are
-- names of declarations and names in their types, and so they are runs of name characters when
-- those are.
import Mathlib
import BoundaryGen.Proofs.Model.Restriction
import BoundaryGen.Proofs.Snapshot.Qualifier
import BoundaryGen.Proofs.Wrapper.HandedValue

namespace BoundaryGen

open Snapshot (InText qualify)
open Text (isNameChar)

/-! ## Names of steps -/

/-- The names that are written for what a step calls. An imported name is written elsewhere. -/
def CallTarget.names : CallTarget → List String
  | .function name => [name]
  | .member receiver name _ => [receiver, name]
  | .companion owner name => [owner, name]

/-- The name of the function that is called for a value. -/
def ValueSource.name? : ValueSource → Option String
  | .method _ name _ | .companion _ name _ => some name
  | .returned _ | .inPair _ | .absent _ => none

def RetrieveStep.names (step : RetrieveStep) : List String :=
  [step.result, step.source, step.modelName, step.retriever.name] ++ step.modelVariable.toList
    ++ step.intentName.toList ++ step.info.name?.toList ++ step.data.name?.toList
    ++ step.data.type?.toList.flatMap TypeRef.names

/-- The names that are written for a step. -/
def Step.names : Step → List String
  | .decode var _ type => var :: type.names
  | .loadModel var function source => [var, function, source]
  | .call result target arguments => result.toList ++ target.names ++ arguments
  | .retrieve step => step.names
  | .encode var value function => [var, value, function]
  | .giveBack var | .giveBackLater var => [var]

/-! ## Runs of name characters -/

instance : DecidablePred InText := fun name =>
  decidable_of_iff (name.toList.all isNameChar = true) List.all_eq_true

/-- All of these names are runs of name characters. -/
def AllInText (names : List String) : Prop := ∀ name ∈ names, InText name

instance : DecidablePred AllInText := fun names =>
  inferInstanceAs (Decidable (∀ name ∈ names, InText name))

variable {a b : String} {names names' : List String}

@[simp]
theorem inText_append : InText (a ++ b) ↔ InText a ∧ InText b := by
  simp only [InText, String.toList_append, List.forall_mem_append]

@[simp]
theorem allInText_nil : AllInText [] := fun _ h => by cases h

@[simp]
theorem allInText_cons : AllInText (a :: names) ↔ InText a ∧ AllInText names :=
  List.forall_mem_cons

@[simp]
theorem allInText_append : AllInText (names ++ names') ↔ AllInText names ∧ AllInText names' :=
  List.forall_mem_append

theorem allInText_retrieve {step : RetrieveStep} : AllInText step.names ↔
    InText step.result ∧ InText step.source ∧ InText step.modelName ∧
      InText step.retriever.name ∧ AllInText step.modelVariable.toList ∧
      AllInText step.intentName.toList ∧ AllInText step.info.name?.toList ∧
      AllInText step.data.name?.toList ∧
      AllInText (step.data.type?.toList.flatMap TypeRef.names) := by
  simp [RetrieveStep.names]

theorem inText_qualify (ha : InText a) (hb : InText b) : InText (qualify a b) := by
  unfold qualify
  split
  · exact hb
  · simp only [inText_append]
    exact ⟨⟨ha, by decide +kernel⟩, hb⟩

theorem isNameChar_of_isDigit {c : Char} (h : c.isDigit = true) : isNameChar c = true := by
  have hlt : c.toNat < 0x80 := by
    simp only [Char.isDigit, Bool.and_eq_true, decide_eq_true_eq] at h
    exact lt_of_le_of_lt (UInt32.le_iff_toNat_le.mp h.2) (by decide)
  simp [isNameChar, Text.isAlphanumeric, hlt, Char.isAlphanum, h]

theorem inText_repr (n : Nat) : InText n.repr := by
  intro c hc
  rw [Nat.toList_repr] at hc
  exact isNameChar_of_isDigit (Nat.isDigit_of_mem_toDigits (by decide) (by decide) hc)

theorem inText_argumentVariable (i : Nat) : InText (argumentVariable i) :=
  inText_append.mpr ⟨by decide +kernel, inText_repr i⟩

theorem allInText_argumentVariables (parameters : List Parameter) :
    AllInText (argumentVariables parameters) := by
  intro name hname
  obtain ⟨i, -, rfl⟩ := List.mem_map.mp hname
  exact inText_argumentVariable i

namespace Snapshot

/-- The packages, the declarations and the types in them have names that are runs of name
characters, and so has the type that data without another one has. -/
structure PlainNames (s : Snapshot) (config : Config) : Prop where
  package : ∀ d ∈ s.declarations, InText d.package
  simpleName : ∀ d ∈ s.declarations, InText d.simpleName
  types : ∀ d ∈ s.declarations, AllInText d.typeNames
  data : InText config.retrieverDataType

instance (s : Snapshot) (config : Config) : Decidable (PlainNames s config) :=
  decidable_of_iff ((∀ d ∈ s.declarations, InText d.package ∧ InText d.simpleName ∧
      AllInText d.typeNames) ∧ InText config.retrieverDataType) <| by
    constructor
    · rintro ⟨h, hdata⟩
      exact ⟨fun d hd => (h d hd).1, fun d hd => (h d hd).2.1, fun d hd => (h d hd).2.2, hdata⟩
    · rintro ⟨hpackage, hname, htypes, hdata⟩
      exact ⟨fun d hd => ⟨hpackage d hd, hname d hd, htypes d hd⟩, hdata⟩

variable {s : Snapshot} {es : List SourceEntry} {config : Config} {m : Model} {id : DeclId}
variable {d : Declaration}

/-! ## Names of declarations -/

/-- A qualified name is made of a package and the names of declarations. -/
theorem WellNumbered.inText_qualifiedName (hw : WellNumbered s) (hp : PlainNames s config)
    (hd : d ∈ s.declarations) : InText d.qualifiedName := by
  obtain ⟨i, hget⟩ := Array.mem_iff_getElem?.mp hd
  induction i using Nat.strong_induction_on generalizing d with
  | _ i ih =>
    cases hparent : d.parent with
    | none =>
      rw [hw.topLevel hget hparent]
      exact inText_qualify (hp.package d hd) (hp.simpleName d hd)
    | some p =>
      obtain ⟨hlt, outer, houter, -, hname⟩ := hw.parent hget hparent
      rw [hname]
      exact inText_qualify (ih p hlt (mem_declarations_of_get? houter) houter)
        (hp.simpleName d hd)

theorem PlainNames.allInText_parameters (hp : PlainNames s config) (hd : d ∈ s.declarations)
    {f : FunctionShape} (hf : d.function? = some f) :
    ∀ p ∈ f.parameters, AllInText p.type.names := fun _ hmem name hname =>
  hp.types d hd name (d.names_subset_of_parameter hf hmem hname)

theorem PlainNames.allInText_returnType (hp : PlainNames s config) (hd : d ∈ s.declarations)
    {type : TypeRef} (htype : returnType? d = some type) : AllInText type.names := by
  obtain ⟨f, hf, hreturn⟩ := Option.bind_eq_some_iff.mp htype
  exact fun name hname => hp.types d hd name (d.names_subset_of_returnType hf hreturn hname)

/-- A model has the names of its declaration. -/
theorem PlainNames.inText_of_model? (hp : PlainNames s config) (hw : WellNumbered s)
    (hm : s.model? config id = some m) : InText m.name ∧ InText m.qualifiedName := by
  simp only [model?, Option.bind_eq_bind, Option.bind_eq_some_iff, Option.pure_def,
    Option.some.injEq] at hm
  obtain ⟨d, hget, rfl⟩ := hm
  have hd := mem_declarations_of_get? hget
  exact ⟨hp.simpleName d hd, hw.inText_qualifiedName hp hd⟩

/-! ## Names of values -/

/-- A value that can be written: its function has a plain name, and is a method of the model only
where there is a model. -/
structure Writable (site : Site) (v : ValueSource) : Prop where
  name : AllInText v.name?.toList
  method : ∀ f name type, v = .method f name type → site = .intent

theorem writable_absent (site : Site) (type : Option TypeRef) : Writable site (.absent type) :=
  ⟨allInText_nil, fun _ _ _ h => by cases h⟩

section Found

variable {w : Wish} {function : Declaration} {model : DeclId} {site : Site} {v : ValueSource}

theorem PlainNames.writable_of_found (hp : PlainNames s config)
    (h : w.Found s config function model site v) : Writable site v := by
  rcases Wish.found_iff.mp h with ⟨type, -, -, rfl⟩ | ⟨pair, type, -, -, -, -, rfl⟩ |
    ⟨hsite, d, type, ⟨hd, -⟩, rfl⟩ | ⟨d, type, ⟨hd, -⟩, rfl⟩
  · exact ⟨allInText_nil, fun _ _ _ h => by cases h⟩
  · exact ⟨allInText_nil, fun _ _ _ h => by cases h⟩
  · exact ⟨allInText_cons.mpr ⟨hp.simpleName d hd.1, allInText_nil⟩, fun _ _ _ _ => hsite⟩
  · refine ⟨allInText_cons.mpr ⟨hp.simpleName d hd.1, allInText_nil⟩, ?_⟩
    rintro _ _ _ ⟨⟩

/-- A value that was found has a type that a declared function names. -/
theorem PlainNames.type_of_found (hp : PlainNames s config) (hfunction : function ∈ s.declarations)
    (h : w.Found s config function model site v) :
    ∃ type, v.type? = some type ∧ AllInText type.names := by
  rcases Wish.found_iff.mp h with ⟨type, hreturn, -, rfl⟩ |
    ⟨pair, type, hreturn, -, hinner, -, rfl⟩ | ⟨-, d, type, ⟨hd, -⟩, rfl⟩ | ⟨d, type, ⟨hd, -⟩, rfl⟩
  · exact ⟨type, rfl, hp.allInText_returnType hfunction hreturn⟩
  · refine ⟨type, rfl, fun name hname => ?_⟩
    exact hp.allInText_returnType hfunction hreturn name
      (TypeRef.names_subset_of_argument? hinner hname)
  · exact ⟨type, rfl, hp.allInText_returnType hd.1 hd.2.2.1⟩
  · exact ⟨type, rfl, hp.allInText_returnType hd.1 hd.2.2.1⟩

end Found

/-! ## Names of bindings -/

/-- What is bound for a function can be written, and data always has a type. -/
structure Bound (site : Site) (b : Binding) : Prop where
  retriever : InText b.retriever.name
  info : Writable site b.info
  data : Writable site b.data
  dataType : ∃ type, b.data.type? = some type ∧ AllInText type.names

theorem Lists.bound (h : Lists s es) (hp : PlainNames s config) {site : Site} {i : DeclId}
    {usesRetriever : Bool} {b : Binding}
    (hb : bindingFor s config m site i usesRetriever = .ok (some b)) : Bound site b := by
  obtain ⟨function, model, hget, hget', hfind, hinfo, hdata⟩ := exists_of_bindingFor hb
  have hfunction := mem_declarations_of_get? hget
  have hmodel := mem_declarations_of_get? hget'
  have hretriever : InText b.retriever.name := Restricts.known_findRetriever
    (hp.types function hfunction) (hp.types model hmodel) hfind
  refine ⟨hretriever, ?_, ?_, ?_⟩
  · rcases h.infoSource_found hinfo.symm with ⟨type, hnone⟩ | ⟨wanted, -, hfound⟩
    · exact hnone ▸ writable_absent site type
    · exact hp.writable_of_found hfound
  · rcases h.dataSource_found hdata.symm with ⟨type, hnone⟩ | hfound
    · exact hnone ▸ writable_absent site type
    · exact hp.writable_of_found hfound
  · have hfits : ∀ t, s.isAssignable config.retrieverDataType t = true ↔
        (s.dataWish config).Fits t := fun _ => Iff.rfl
    rcases exists_of_firstOf ((h.source?_iff hfits site _ b.data).mp hdata.symm) with
      hnone | hfound
    · refine ⟨{ name := config.retrieverDataType }, by rw [hnone]; rfl, ?_⟩
      exact allInText_cons.mpr ⟨hp.data, allInText_nil⟩
    · exact hp.type_of_found hfunction hfound

/-! ## Names of wrappers -/

theorem allInText_decodeSteps {parameters : List Parameter}
    (h : ∀ p ∈ parameters, AllInText p.type.names) (start : Nat) :
    ∀ step ∈ decodeSteps start parameters, AllInText step.names := by
  induction parameters generalizing start with
  | nil => exact fun _ hstep => by cases hstep
  | cons p rest ih =>
    obtain ⟨hp, hrest⟩ := List.forall_mem_cons.mp h
    exact List.forall_mem_cons.mpr
      ⟨allInText_cons.mpr ⟨inText_argumentVariable start, hp⟩, ih hrest (start + 1)⟩

theorem allInText_closingSteps (hm : InText m.name) {value : String} (hvalue : InText value)
    (later : Bool) : ∀ step ∈ closingSteps m value later, AllInText step.names := by
  have hsaved : InText savedVariable := by decide +kernel
  have hsave : InText m.saveFunction := inText_append.mpr ⟨by decide +kernel, hm⟩
  cases later <;> simp [closingSteps, Step.names, hsaved, hvalue, hsave]

theorem allInText_resultSteps (hm : InText m.name ∧ InText m.qualifiedName) {intent : Option Intent}
    (hintent : ∀ i ∈ intent, InText i.name) {site : Site} {binding : Option Binding}
    (hb : ∀ b ∈ binding, Bound site b) (later : Bool) :
    ∀ step ∈ resultSteps m intent binding later, AllInText step.names := by
  have hresult : InText resultVariable := by decide +kernel
  have hretrieved : InText retrievedVariable := by decide +kernel
  have hmodel : InText modelVariable := by decide +kernel
  cases binding with
  | none => exact allInText_closingSteps hm.1 hresult later
  | some b =>
    refine List.forall_mem_cons.mpr ⟨?_, allInText_closingSteps hm.1 hretrieved later⟩
    obtain ⟨hretriever, ⟨hinfo, -⟩, ⟨hdata, -⟩, type, htype, hnames⟩ := hb b rfl
    cases intent with
    | none =>
      simp [retrieveStep, Step.names, RetrieveStep.names, hresult, hretrieved, hm, hretriever,
        hinfo, hdata, htype, hnames]
    | some i =>
      simp [retrieveStep, Step.names, RetrieveStep.names, hresult, hretrieved, hmodel, hm,
        hretriever, hinfo, hdata, htype, hnames, hintent i rfl]

/-- An init function is called by names of the snapshot. -/
theorem PlainNames.allInText_target (hp : PlainNames s config) (hw : WellNumbered s)
    (hm : s.model? config id = some m) {i : Init} (hi : m.init = some i) :
    AllInText i.target.names := by
  obtain ⟨model, _, d, f, hmodel, -, hget, -, rfl⟩ := exists_initId hm hi
  have hd := mem_declarations_of_get? hget
  have hqualified := hw.inText_qualifiedName hp hd
  have hname := hp.simpleName d hd
  have hplaced := hw.placed hd model
  unfold Init.target
  dsimp only
  generalize s.placement d model = place at hplaced
  cases hplaced with
  | topLevel => simpa [CallTarget.names] using hqualified
  | nested => simpa [CallTarget.names] using hqualified
  | companion _ houter =>
    simpa [CallTarget.names] using ⟨hw.inText_qualifiedName hp houter, hname⟩
  | stray =>
    have howner := hw.inText_qualifiedName hp (mem_declarations_of_get? hmodel)
    simpa [CallTarget.names] using ⟨howner, hname⟩

theorem allInText_initSteps (hm : InText m.name ∧ InText m.qualifiedName) {i : Init}
    (htarget : AllInText i.target.names) {binding : Option Binding}
    (hb : ∀ b ∈ binding, Bound .init b) :
    ∀ step ∈ initSteps m i binding, AllInText step.names := by
  have hresult : InText resultVariable := by decide +kernel
  refine List.forall_mem_cons.mpr ⟨?_, ?_⟩
  · simp [Step.names, hresult, htarget, allInText_argumentVariables]
  · exact allInText_resultSteps hm (fun _ h => by cases h) hb i.isSuspending

theorem allInText_intentSteps (hm : InText m.name ∧ InText m.qualifiedName) {i : Intent}
    (hi : InText i.name ∧ InText i.qualifiedName) {binding : Option Binding}
    (hb : ∀ b ∈ binding, Bound .intent b) :
    ∀ step ∈ intentSteps m i binding, AllInText step.names := by
  have hresult : InText resultVariable := by decide +kernel
  have hmodel : InText modelVariable := by decide +kernel
  have hload : AllInText
      (Step.loadModel modelVariable m.loadFunction modelParameter).names := by
    have hparameter : InText modelParameter := by decide +kernel
    have hfunction : InText m.loadFunction := inText_append.mpr ⟨by decide +kernel, hm.1⟩
    simp [Step.names, hmodel, hparameter, hfunction]
  have hcall (result : Option String) (h : AllInText result.toList) :
      AllInText (Step.call result (intentCall i).1 (intentCall i).2).names := by
    unfold intentCall
    cases i.convention <;>
      simp [Step.names, CallTarget.names, h, hi, hmodel, allInText_argumentVariables]
  refine List.forall_mem_cons.mpr ⟨hload, ?_⟩
  split
  · refine List.forall_mem_cons.mpr ⟨hcall _ (allInText_cons.mpr ⟨hresult, allInText_nil⟩), ?_⟩
    exact allInText_resultSteps hm (by simpa using hi.1) hb i.isSuspending
  · refine List.forall_mem_cons.mpr ⟨hcall none allInText_nil, ?_⟩
    exact allInText_closingSteps hm.1 hmodel i.isSuspending

/-- All names that are written for a wrapper are runs of name characters. -/
theorem Lists.allInText_wrapper (h : Lists s es) (hp : PlainNames s config)
    (hm : s.model? config id = some m) {w : Wrapper} (hw : w ∈ (s.unit config m).1.wrappers) :
    InText w.name ∧ ∀ step ∈ w.steps, AllInText step.names := by
  have hnames := hp.inText_of_model? h.wellNumbered hm
  rcases mem_wrappers_unit hw with ⟨i, hi, hok⟩ | ⟨i, hi, hok⟩
  · obtain ⟨b, hb, rfl⟩ := exists_of_initWrapper hok
    obtain ⟨d, hd, f, hf, -, -, -, hparameters, -⟩ := declares_of_init hm hi
    refine ⟨inText_append.mpr ⟨by decide +kernel, hnames.1⟩, List.forall_mem_append.mpr ⟨?_, ?_⟩⟩
    · exact allInText_decodeSteps (hparameters ▸ hp.allInText_parameters hd hf) 0
    · refine allInText_initSteps hnames (hp.allInText_target h.wellNumbered hm hi) fun b' hb' => ?_
      obtain rfl := Option.mem_def.mp hb'
      exact h.bound hp hb
  · have hintent := Model.mem_intents_of_mem_distinctIntents hi
    obtain ⟨b, hb, rfl⟩ := exists_of_intentWrapper hok
    obtain ⟨d, hd, f, hf, -, hname, hqualified, hparameters, -⟩ :=
      declares_of_mem_intents hm hintent
    have hi' : InText i.name ∧ InText i.qualifiedName :=
      ⟨hname ▸ hp.simpleName d hd, hqualified ▸ h.wellNumbered.inText_qualifiedName hp hd⟩
    refine ⟨inText_append.mpr ⟨hi'.1, hnames.1⟩, List.forall_mem_append.mpr ⟨?_, ?_⟩⟩
    · refine allInText_decodeSteps (fun p hp' => ?_) 0
      refine hp.allInText_parameters hd hf p (hparameters ▸ ?_)
      unfold Intent.arguments at hp'
      split at hp'
      · exact List.mem_of_mem_drop hp'
      · exact hp'
      · exact hp'
    · refine allInText_intentSteps hnames hi' fun b' hb' => ?_
      obtain rfl := Option.mem_def.mp hb'
      exact h.bound hp hb

end Snapshot

end BoundaryGen
