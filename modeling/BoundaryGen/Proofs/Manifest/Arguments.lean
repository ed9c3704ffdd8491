-- The parameters that the manifest names for a wrapper are what the wrapper takes over
-- the boundary: the model first, then each argument at the place where it is decoded.
-- A declared parameter must not take the place of the receiver for this, and an intent
-- needs a key that no intent of another name has.
import Mathlib
import BoundaryGen.Proofs.Manifest.Wrappers

namespace BoundaryGen

/-! ## Decoded arguments -/

/-- The place of the argument that a step decodes. -/
def Step.place? : Step → Option Nat
  | .decode _ index _ => some index
  | _ => none

theorem Step.Closing.place? {step : Step} (h : step.Closing) : step.place? = none := by
  cases h <;> rfl

theorem Step.isDecode_eq (step : Step) : step.isDecode = step.place?.isSome := by
  cases step <;> rfl

theorem places_decodeSteps (start : Nat) (parameters : List Parameter) :
    (decodeSteps start parameters).filterMap Step.place? =
      List.range' start parameters.length := by
  induction parameters generalizing start with
  | nil => rfl
  | cons p rest ih =>
    simp only [decodeSteps, List.filterMap_cons, Step.place?, ih, List.length_cons,
      List.range'_succ]

/-- An argument is decoded as the type of the parameter at its place. -/
theorem type_of_mem_decodeSteps (start : Nat) {index : Nat} {parameters : List Parameter}
    {var : String} {type : TypeRef}
    (h : Step.decode var (start + index) type ∈ decodeSteps start parameters) :
    (parameters[index]?).map (·.type) = some type := by
  induction parameters generalizing start index with
  | nil => cases h
  | cons p rest ih =>
    rcases List.mem_cons.mp h with h | h
    · have hindex : index = 0 := by
        injection h
        omega
      subst hindex
      cases h
      rfl
    · cases index with
      | zero =>
        have hplace : start ∈ (decodeSteps (start + 1) rest).filterMap Step.place? :=
          List.mem_filterMap.mpr ⟨_, h, rfl⟩
        rw [places_decodeSteps, List.mem_range'_1] at hplace
        omega
      | succ index =>
        apply ih (start + 1)
        rw [Nat.add_right_comm]
        exact h

namespace Wrapper

/-- The places of the decoded arguments, in the order of the steps. -/
def places (w : Wrapper) : List Nat := w.steps.filterMap Step.place?

theorem arity_eq (w : Wrapper) : w.arity = w.places.length := by
  unfold arity places
  induction w.steps with
  | nil => rfl
  | cons step rest ih =>
    simp only [List.filter_cons, List.filterMap_cons, step.isDecode_eq]
    rcases step.place? with _ | index
    · exact ih
    · exact congrArg (· + 1) ih

/-- The wrapper decodes its arguments as some parameters, and no other arguments. -/
def Takes (w : Wrapper) (parameters : List Parameter) : Prop :=
  ∃ rest, w.steps = decodeSteps 0 parameters ++ rest ∧ rest.filterMap Step.place? = []

variable {w : Wrapper} {parameters : List Parameter}

theorem Takes.places (h : w.Takes parameters) : w.places = List.range parameters.length := by
  obtain ⟨rest, hsteps, hrest⟩ := h
  rw [Wrapper.places, hsteps, List.filterMap_append, places_decodeSteps, hrest, List.append_nil,
    List.range_eq_range']

theorem Takes.arity (h : w.Takes parameters) : w.arity = parameters.length := by
  rw [arity_eq, h.places, List.length_range]

theorem Takes.type (h : w.Takes parameters) {var : String} {index : Nat} {type : TypeRef}
    (hstep : Step.decode var index type ∈ w.steps) :
    (parameters[index]?).map (·.type) = some type := by
  obtain ⟨rest, hsteps, hrest⟩ := h
  rw [hsteps, List.mem_append] at hstep
  rcases hstep with hstep | hstep
  · apply type_of_mem_decodeSteps 0
    rw [Nat.zero_add]
    exact hstep
  · have hplace : index ∈ rest.filterMap Step.place? := List.mem_filterMap.mpr ⟨_, hstep, rfl⟩
    rw [hrest] at hplace
    cases hplace

end Wrapper

/-- The names of the wrappers of intents, with the numbers of arguments that they decode. -/
def Generation.arities (g : Generation) : List (String × Nat) :=
  g.units.flatMap fun u => u.intents.map fun w => (w.name, w.arity)

/-! ## The place of the receiver -/

/-- No declared parameter of an intent takes the place of the receiver. -/
def Intent.KeepsReceiver (i : Intent) : Prop :=
  i.convention.onReceiver = true → receiverParameter ∉ i.parameters.map (·.name)

instance (i : Intent) : Decidable i.KeepsReceiver :=
  inferInstanceAs (Decidable (_ = true → _ ∉ _))

namespace Snapshot

variable {s : Snapshot} {config : Config} {m : Model} {u : WrapperUnit}

/-! ## Steps behind the decoded arguments -/

theorem places_resultSteps (m : Model) (intent : Option Intent) (binding : Option Binding)
    (later : Bool) : (resultSteps m intent binding later).filterMap Step.place? = [] :=
  filterMap_resultSteps (fun _ => rfl) Step.Closing.place? m intent binding later

theorem places_intentSteps (m : Model) (i : Intent) (binding : Option Binding) :
    (intentSteps m i binding).filterMap Step.place? = [] := by
  unfold intentSteps
  split
  · exact places_resultSteps m (some i) binding i.isSuspending
  · exact filterMap_closingSteps Step.Closing.place? m modelVariable i.isSuspending

/-- The wrapper of an intent takes the arguments of the intent. -/
theorem WrapsIntent.takes {i : Intent} {w : Wrapper} (h : s.WrapsIntent config m i w) :
    w.Takes i.arguments := by
  obtain ⟨b, -, rfl⟩ := exists_of_intentWrapper h.made
  exact ⟨_, rfl, places_intentSteps m i b⟩

/-- The wrapper of an init function takes the parameters of the function. -/
theorem WrapsInit.takes {i : Init} {w : Wrapper} (h : s.WrapsInit config m i w) :
    w.Takes i.parameters := by
  obtain ⟨b, -, rfl⟩ := exists_of_initWrapper h.made
  exact ⟨_, rfl, places_resultSteps m none b i.isSuspending⟩

/-! ## Parameters of intents -/

/-- The first parameter of a free intent is the model. -/
theorem WellNumbered.parameters_of_free (hw : WellNumbered s) {id function : DeclId} {i : Intent}
    (hid : function ∈ s.freeIntentIds config id)
    (hi : s.intentOf? config function .free = some i) :
    ∃ p, i.parameters = p :: i.arguments ∧ p.type = s.starProjectedType id := by
  unfold freeIntentIds at hid
  obtain ⟨⟨d, f⟩, hdf, hfits⟩ := List.mem_filterMap.mp hid
  obtain ⟨place, hd, hf⟩ := exists_get?_of_functionsAnnotated hdf
  dsimp only at hfits
  split at hfits
  · rename_i hmodel
    cases hfits
    have hplace : d.id = place := hw.id_eq hd
    rw [← hplace] at hd
    simp only [intentOf?, hd, hf, Option.bind_eq_bind, Option.bind_some, Option.pure_def,
      Option.some.injEq] at hi
    obtain ⟨p, hp, htype⟩ := Option.map_eq_some_iff.mp hmodel.2.2
    subst hi
    have hparameters := (List.cons_head?_tail hp).symm
    rw [← List.drop_one] at hparameters
    exact ⟨p, hparameters, htype⟩
  · cases hfits

theorem onReceiver_of_receiverConvention? {id : DeclId} {name : String} {d : Declaration}
    {f : FunctionShape} {c : Convention} (h : receiverConvention? id name d f = some c) :
    c.onReceiver = true := by
  unfold receiverConvention? at h
  split at h
  · cases h
    rfl
  · split at h
    · cases h
      rfl
    · cases h

theorem onReceiver_of_mem_receiverIntentIds {id function : DeclId} {c : Convention}
    (h : (function, c) ∈ s.receiverIntentIds config id) : c.onReceiver = true := by
  unfold receiverIntentIds at h
  split at h
  · cases h
  · obtain ⟨⟨d, f⟩, -, hdf⟩ := List.mem_filterMap.mp (mem_of_mem_firstOfEach h)
    obtain ⟨c', hc', heq⟩ := Option.map_eq_some_iff.mp hdf
    cases heq
    exact onReceiver_of_receiverConvention? hc'

theorem convention_of_intentOf? {id : DeclId} {c : Convention} {i : Intent}
    (h : s.intentOf? config id c = some i) : i.convention = c := by
  simp only [intentOf?, Option.bind_eq_bind, Option.bind_eq_some_iff, Option.pure_def,
    Option.some.injEq] at h
  obtain ⟨d, -, f, -, rfl⟩ := h
  rfl

/-- A call of an intent takes the model and then the arguments of the intent. -/
theorem WellNumbered.callParameters (hw : WellNumbered s) (hm : m ∈ s.models config) {i : Intent}
    (hi : i ∈ m.intents) : ∃ p, i.callParameters m = p :: i.arguments ∧ p.type = m.type := by
  obtain ⟨id, -, hid⟩ := List.mem_filterMap.mp hm
  simp only [model?, Option.bind_eq_bind, Option.bind_eq_some_iff, Option.pure_def,
    Option.some.injEq] at hid
  obtain ⟨d, -, rfl⟩ := hid
  simp only [intents, List.mem_append, List.mem_filterMap] at hi
  rcases hi with ⟨function, hfunction, hi⟩ | ⟨⟨function, c⟩, hfunction, hi⟩
  · have hc := convention_of_intentOf? hi
    obtain ⟨p, hp, htype⟩ := hw.parameters_of_free hfunction hi
    refine ⟨p, ?_, htype⟩
    rw [Intent.callParameters, hc, ← hp]
    rfl
  · have hc := convention_of_intentOf? hi
    have hreceiver := onReceiver_of_mem_receiverIntentIds hfunction
    refine ⟨{ name := receiverParameter, type := s.starProjectedType id }, ?_, rfl⟩
    rw [Intent.callParameters, hc, if_pos hreceiver, Intent.arguments, hc]
    cases c with
    | free => cases hreceiver
    | method => rfl
    | extension => rfl

/-! ## The manifest against the wrappers -/

/-- The parameters of a function have different names. -/
def DistinctParameters (s : Snapshot) : Prop :=
  ∀ d ∈ s.declarations, ∀ f ∈ d.function?, (f.parameters.map (·.name)).Nodup

instance (s : Snapshot) : Decidable s.DistinctParameters :=
  inferInstanceAs (Decidable (∀ d ∈ s.declarations, ∀ f ∈ d.function?, _))

theorem Declares.nodup {id : DeclId} {name qualifiedName : String} {parameters : List Parameter}
    {returnType : Option TypeRef} (hp : s.DistinctParameters)
    (h : s.Declares id name qualifiedName parameters returnType) :
    (parameters.map (·.name)).Nodup := by
  obtain ⟨d, hd, f, hf, -, -, -, rfl, -⟩ := h
  exact hp d hd f hf

/-- The entries of a map are what a wrapper takes: first some types on their own, then the
arguments that the wrapper decodes, each at its place. -/
structure Agrees (s : Snapshot) (lead : List TypeRef) (map : ParameterMap) (w : Wrapper) :
    Prop where
  size : map.size = lead.length + w.arity
  first : (map.entries.map (·.2)).take lead.length = lead.map s.typeText
  decoded : ∀ var index type, Step.decode var index type ∈ w.steps →
    (map.entries[lead.length + index]?).map (·.2) = some (s.typeText type)
  /-- The arguments are decoded from the first to the last. -/
  places : w.places = List.range w.arity

/-- A map agrees with a wrapper when its texts are those of the parameters that it takes. -/
theorem agrees_of_texts {lead : List TypeRef} {map : ParameterMap} {w : Wrapper}
    {parameters : List Parameter} (hw : w.Takes parameters)
    (h : map.entries.map (·.2) = (lead ++ parameters.map (·.type)).map s.typeText) :
    Agrees s lead map w where
  size := by
    have hlength := congrArg List.length h
    simp only [List.length_map, List.length_append] at hlength
    rw [hw.arity]
    exact hlength
  first := by
    rw [h, List.map_append, List.take_left' (List.length_map _)]
  decoded var index type hstep := by
    have hplace : lead.length ≤ lead.length + index := Nat.le_add_right _ _
    have htype : (parameters.map (·.type))[index]? = some type := by
      rw [List.getElem?_map]
      exact hw.type hstep
    rw [← List.getElem?_map, h, List.getElem?_map, List.getElem?_append_right hplace,
      Nat.add_sub_cancel_left, htype]
    rfl
  places := by
    rw [hw.arity]
    exact hw.places

/-- Parameters with different names have their types in their map, in their order. -/
theorem texts_typeTexts {parameters : List Parameter} (h : (parameters.map (·.name)).Nodup) :
    (OrderedMap.ofList (s.typeTexts parameters)).entries.map (·.2) =
      (parameters.map (·.type)).map s.typeText := by
  rw [s.entries_typeTexts_of_nodup h, typeTexts, List.map_map, List.map_map]
  rfl

/-- The map under the key of an intent names the parameters of a call. -/
theorem texts_intents_modelData {i : Intent} (hi : i ∈ m.intents) (hown : m.HasOwnName i)
    (hkey : m.HasOwnKey i) (hn : (i.parameters.map (·.name)).Nodup) (hr : i.KeepsReceiver) :
    ∃ map, (s.modelData m).intents.get? i.manifestKey = some map ∧
      map.entries.map (·.2) = ((i.callParameters m).map (·.type)).map s.typeText := by
  have hcall : ((i.callParameters m).map (·.name)).Nodup := by
    unfold Intent.callParameters
    split
    · rename_i hreceiver
      exact List.nodup_cons.mpr ⟨hr hreceiver, hn⟩
    · exact hn
  refine ⟨s.intentParameters m i, ?_, ?_⟩
  -- Other intents may share keys among each other, so the entries are not known one by one. But
  -- under this key nothing else is put.
  · apply OrderedMap.get?_insertAll_of_mem
    · have hdistinct := Model.mem_distinctIntents.mpr ⟨hi, hown⟩
      exact List.mem_map_of_mem (f := fun i => (i.manifestKey, s.intentParameters m i)) hdistinct
    · intro map hmap
      obtain ⟨j, hj, heq⟩ := List.mem_map.mp hmap
      obtain ⟨hji, rfl⟩ := Prod.mk.inj heq
      obtain ⟨hj, hjown⟩ := Model.mem_distinctIntents.mp hj
      rw [hown.eq_of_name_eq hi hj (hkey j hj hjown hji).symm]
  · rw [s.intentParameters_of_nodup m hn, texts_typeTexts hcall]

/-! ## The law of the arguments -/

/-- In a snapshot whose functions have no two parameters of one name, the map of an intent with a
wrapper names the model and then the arguments that the wrapper decodes, each at its place, as long
as the receiver keeps its entry and no intent of another name has the key. The map of the init
function names what the wrapper of the init function decodes. Where no two models share a name,
these maps stand in the manifest of the generation. -/
theorem the_manifest_names_what_is_decoded {files : List SourceFile}
    (hs : ofFiles files = .ok s) (hp : s.DistinctParameters) (config : Config)
    (hmu : (m, u) ∈ (s.generate config).models.zip (s.generate config).units) :
    (∀ w ∈ u.intents, ∃ i ∈ m.intents, s.WrapsIntent config m i w ∧
      (i.KeepsReceiver → m.HasOwnKey i →
        ∃ map, (s.modelData m).intents.get? i.manifestKey = some map ∧
          Agrees s [m.type] map w)) ∧
    (∀ w, u.init = some w → Agrees s [] (s.modelData m).init w) ∧
    (((s.generate config).models.map (·.qualifiedName)).Nodup →
      (s.generate config).manifest.models.get? m.qualifiedName = some (s.modelData m)) := by
  have hw : WellNumbered s := (lists_ofFiles hs).wellNumbered
  obtain ⟨hm, rfl⟩ := mem_zip_generate.mp hmu
  obtain ⟨id, -, hid⟩ := List.mem_filterMap.mp hm
  have haccounts := accounts_unit (hw.functions hm) config
  refine ⟨?_, ?_, fun hn => s.get?_manifest hn hm⟩
  · intro w hwi
    obtain ⟨i, hi, hwraps⟩ := exists_left_of_forall₂ haccounts.intents hwi
    obtain ⟨hi, hok⟩ := List.mem_filter.mp hi
    refine ⟨i, hi, hwraps, ?_⟩
    intro hr hkey
    obtain ⟨p, hcall, htype⟩ := hw.callParameters hm hi
    have hn := (declares_of_mem_intents hid hi).nodup hp
    obtain ⟨map, hget, htexts⟩ :=
      texts_intents_modelData (s := s) hi (of_decide_eq_true hok).1 hkey hn hr
    refine ⟨map, hget, agrees_of_texts hwraps.takes ?_⟩
    rw [htexts, hcall, List.map_cons, htype]
    rfl
  · intro w hwi
    obtain ⟨i, hi, hwraps⟩ := haccounts.wrapsInit w hwi
    have hn := (declares_of_init hid hi).nodup hp
    have hinit : (s.modelData m).init = .ofList (s.typeTexts i.parameters) := by
      rw [modelData, hi]
      rfl
    apply agrees_of_texts hwraps.takes
    rw [hinit, texts_typeTexts hn, List.nil_append]

/-- A model with an init function of two parameters, a free intent that waits, and a method of a
given name with one parameter of a given name. -/
def labelFile (method parameter : String) : SourceFile where
  path := "app/Label.kt"
  package := "app"
  declarations :=
    let names : AnnotationNames := {}
    let label : TypeRef := { name := "app.Label" }
    let text : TypeRef := { name := "kotlin.String" }
    [Node.classNamed "Label" |>.annotated { name := names.model }
      |>.withMember (Node.companion |>.withMember (Node.functionNamed "open"
        |>.annotated { name := names.init } |>.withParameter "title" text
        |>.withParameter "size" { name := "kotlin.Int" } |>.returning label))
      |>.withMember (Node.functionNamed method |>.annotated { name := names.intent }
        |>.withParameter parameter text),
    Node.functionNamed "merge" |>.annotated { name := names.intent } |>.withModifier .suspend
      |>.withParameter "label" label |>.withParameter "other" label
      |>.withParameter "between" text]

theorem the_label_names_what_is_decoded : ∃ s m u, ofFiles [labelFile "rename" "text"] = .ok s ∧
    s.DistinctParameters ∧ (m, u) ∈ (s.generate {}).models.zip (s.generate {}).units ∧
    (s.generate {}).arities = [("mergeLabel", 2), ("renameLabel", 1)] ∧
    (∀ w ∈ u.intents, ∃ i ∈ m.intents, s.WrapsIntent {} m i w ∧
      ∃ map, (s.modelData m).intents.get? i.manifestKey = some map ∧ Agrees s [m.type] map w) ∧
    ∃ w, u.init = some w ∧ Agrees s [] (s.modelData m).init w := by
  obtain ⟨s, hs, hp, harities, hnames, hmodels⟩ :=
    exists_ofFiles_singleton (labelFile "rename" "text") (fun s =>
      s.DistinctParameters ∧ (s.generate {}).arities = [("mergeLabel", 2), ("renameLabel", 1)] ∧
      (s.models {}).map (·.name) = ["Label"] ∧
      ∀ m ∈ s.models {}, (s.unit {} m).1.init.isSome = true ∧
        ∀ i ∈ m.intents, i.KeepsReceiver ∧ m.HasOwnKey i) (by decide +kernel)
  have hlabel : "Label" ∈ (s.models {}).map (·.name) := by
    rw [hnames]
    exact List.mem_cons_self
  obtain ⟨m, hm, -⟩ := List.mem_map.mp hlabel
  obtain ⟨hstarts, hintents⟩ := hmodels m hm
  obtain ⟨w, hw⟩ := Option.isSome_iff_exists.mp hstarts
  have hmu : (m, (s.unit {} m).1) ∈ (s.generate {}).models.zip (s.generate {}).units :=
    mem_zip_generate.mpr ⟨hm, rfl⟩
  obtain ⟨hwraps, hinit, -⟩ := the_manifest_names_what_is_decoded hs hp {} hmu
  refine ⟨s, m, _, hs, hp, hmu, harities, ?_, w, hw, hinit w hw⟩
  intro w hw
  obtain ⟨i, hi, hiw, hagrees⟩ := hwraps w hw
  obtain ⟨hr, hkey⟩ := hintents i hi
  exact ⟨i, hi, hiw, hagrees hr hkey⟩

/-- A parameter under the name of the receiver takes the place of the receiver, so that one entry
stands for the model and the argument. A method under the key of an intent that waits takes the
place of that intent, so that two entries stand for the model and two arguments. -/
theorem the_label_hides_what_is_decoded :
    (∃ s, ofFiles [labelFile "rename" "model"] = .ok s ∧ s.DistinctParameters ∧
      (s.generate {}).arities = [("mergeLabel", 2), ("renameLabel", 1)] ∧
      (s.generate {}).manifest.models.entries.map (fun (_, data) => data.intents.get? "rename") =
        [some (.ofList [("model", "kotlin.String")])]) ∧
    (∃ s, ofFiles [labelFile "SUSPEND_merge" "text"] = .ok s ∧ s.DistinctParameters ∧
      (s.generate {}).arities = [("mergeLabel", 2), ("SUSPEND_mergeLabel", 1)] ∧
      (s.generate {}).manifest.models.entries.map (fun (_, data) =>
          data.intents.get? "SUSPEND_merge") =
        [some (.ofList [("model", "app.Label"), ("text", "kotlin.String")])]) := by
  constructor
  · exact exists_ofFiles_singleton _ _ (by decide +kernel)
  · exact exists_ofFiles_singleton _ _ (by decide +kernel)

end Snapshot

end BoundaryGen
