-- The manifest of some models read back: every model comes out in its place,
-- with the types that its texts name. So another generator sees what this one
-- has resolved.
import Mathlib
import BoundaryGen.Manifest.Binding
import BoundaryGen.Model.Resolve
import BoundaryGen.Proofs.Manifest.RoundTrip
import BoundaryGen.Proofs.Model.RepeatedNames
import BoundaryGen.Proofs.Result
import BoundaryGen.Proofs.Snapshot.Qualifier
import BoundaryGen.Source.Build

namespace BoundaryGen

open Snapshot (WellNumbered keepsNames_qualifier lists_ofFiles)
open TypeRef (wellFormed mapNames parse_renderWith)

/-! ## Types -/

namespace ResolvedType

/-- The builtin type of a name, or the name itself as a declared type. -/
def nominalKind (name : String) : TypeKind :=
  match Builtin.lookup name with
  | some b => .builtin b
  | none => .declared name

mutual
/-- A type in which each name has its nominal kind. -/
def nominal : TypeRef → ResolvedType
  | t@⟨name, arguments, _⟩ => .mk t (nominalKind name) (nominalArguments arguments)
def nominalArguments : List TypeArgument → List (Option ResolvedType)
  | [] => []
  | ⟨_, none⟩ :: rest => none :: nominalArguments rest
  | ⟨_, some type⟩ :: rest => some (nominal type) :: nominalArguments rest
end

theorem kindOf?_anyResolver (name : String) :
    kindOf? anyResolver name = some (nominalKind name) := by
  unfold kindOf? nominalKind
  cases Builtin.lookup name <;> rfl

mutual
/-- A resolver that takes every name resolves every type. -/
theorem ofType_anyResolver : ∀ t : TypeRef, ofType anyResolver t = .ok (nominal t)
  | ⟨name, arguments, nullable⟩ => by
    rw [ofType, kindOf?_anyResolver, nominal]
    dsimp only
    rw [ofArguments_anyResolver arguments]
    rfl
theorem ofArguments_anyResolver :
    ∀ as : List TypeArgument, ofArguments anyResolver as = .ok (nominalArguments as)
  | [] => by rw [ofArguments, nominalArguments]
  | ⟨_, none⟩ :: rest => by
    rw [ofArguments, nominalArguments, ofArguments_anyResolver rest]
    rfl
  | ⟨_, some type⟩ :: rest => by
    rw [ofArguments, nominalArguments, ofType_anyResolver type, ofArguments_anyResolver rest]
    rfl
end

theorem parse_typeText {s : Snapshot} (hw : WellNumbered s) {t : TypeRef}
    (h : t.wellFormed = true) :
    parse anyResolver (s.typeText t) = .ok (nominal (t.mapNames s.qualifier)) := by
  unfold parse Snapshot.typeText
  rw [parse_renderWith (keepsNames_qualifier hw) h]
  dsimp only
  rw [ofType_anyResolver]

end ResolvedType

/-! ## What is read back -/

/-- The parameters of an intent as the other side sees them: a receiver comes first. -/
def Intent.callParameters (m : Model) (i : Intent) : List Parameter :=
  if i.convention.onReceiver then { name := receiverParameter, type := m.type } :: i.parameters
  else i.parameters

def Model.initParameters (m : Model) : List Parameter := (m.init.map (·.parameters)).getD []

namespace Snapshot

variable (s : Snapshot)

/-- Parameters with the types that their texts name. -/
def bindingParameters (parameters : List Parameter) : List (String × ResolvedType) :=
  parameters.map fun p => (p.name, .nominal (p.type.mapNames s.qualifier))

def bindingIntent (m : Model) (i : Intent) : BindingIntent where
  name := i.name
  isAsync := i.isSuspending
  parameters := s.bindingParameters (i.callParameters m)

/-- A model from the other side, with the intents whose name no other intent has. -/
def bindingModel (m : Model) : BindingModel where
  name := m.qualifiedName
  values := s.bindingParameters m.fields
  intents := (m.intents.filter fun i => (m.intents.map (·.name)).count i.name = 1).map
    (s.bindingIntent m)
  init := s.bindingParameters m.initParameters
  isInitSuspend := (m.init.map (·.isSuspending)).getD false

end Snapshot

/-! ## What can be read back -/

/-- Parameters with names that stand once and types that have a text. -/
structure ReadableParameters (parameters : List Parameter) : Prop where
  nodup : (parameters.map (·.name)).Nodup
  wellFormed : ∀ p ∈ parameters, p.type.wellFormed = true

/-- An intent whose name is not taken for a marked one, and whose receiver keeps its place. -/
structure Intent.Readable (i : Intent) : Prop where
  unmarked : ¬ suspendMark.toList <+: i.name.toList
  parameters : ReadableParameters i.parameters
  receiver : i.convention.onReceiver = true → receiverParameter ∉ i.parameters.map (·.name)

structure Model.Readable (m : Model) : Prop where
  type : m.type.wellFormed = true
  fields : ReadableParameters m.fields
  init : ReadableParameters m.initParameters
  intents : ∀ i ∈ m.intents, i.Readable

instance (parameters : List Parameter) : Decidable (ReadableParameters parameters) :=
  decidable_of_iff
    ((parameters.map (·.name)).Nodup ∧ ∀ p ∈ parameters, p.type.wellFormed = true)
    ⟨fun ⟨hn, hw⟩ => ⟨hn, hw⟩, fun h => ⟨h.nodup, h.wellFormed⟩⟩

instance (i : Intent) : Decidable i.Readable :=
  decidable_of_iff
    (¬ suspendMark.toList <+: i.name.toList ∧ ReadableParameters i.parameters ∧
      (i.convention.onReceiver = true → receiverParameter ∉ i.parameters.map (·.name)))
    ⟨fun ⟨hu, hp, hr⟩ => ⟨hu, hp, hr⟩, fun h => ⟨h.unmarked, h.parameters, h.receiver⟩⟩

instance (m : Model) : Decidable m.Readable :=
  decidable_of_iff
    (m.type.wellFormed = true ∧ ReadableParameters m.fields ∧
      ReadableParameters m.initParameters ∧ ∀ i ∈ m.intents, i.Readable)
    ⟨fun ⟨ht, hf, hn, hi⟩ => ⟨ht, hf, hn, hi⟩, fun h => ⟨h.type, h.fields, h.init, h.intents⟩⟩

theorem Intent.Readable.callParameters {m : Model} {i : Intent} (hm : m.Readable)
    (hi : i.Readable) : ReadableParameters (i.callParameters m) := by
  unfold Intent.callParameters
  split
  · rename_i h
    refine ⟨List.nodup_cons.mpr ⟨hi.receiver h, hi.parameters.nodup⟩, fun p hp => ?_⟩
    rcases List.mem_cons.mp hp with rfl | hp
    · exact hm.type
    · exact hi.parameters.wellFormed p hp
  · exact hi.parameters

/-! ## Parameters -/

namespace Snapshot

variable {s : Snapshot} {parameters : List Parameter}

theorem keys_typeTexts (s : Snapshot) (parameters : List Parameter) :
    (s.typeTexts parameters).map (·.1) = parameters.map (·.name) := by
  rw [typeTexts, List.map_map]
  rfl

theorem entries_typeTexts_of_nodup (s : Snapshot) (h : (parameters.map (·.name)).Nodup) :
    (OrderedMap.ofList (s.typeTexts parameters)).entries = s.typeTexts parameters :=
  OrderedMap.entries_ofList (by rw [keys_typeTexts]; exact h)

theorem entries_typeTexts (h : ReadableParameters parameters) :
    (OrderedMap.ofList (s.typeTexts parameters)).entries = s.typeTexts parameters :=
  s.entries_typeTexts_of_nodup h.nodup

/-- The map of an intent holds its parameters in the order of a call. -/
theorem intentParameters_of_nodup (s : Snapshot) (m : Model) {i : Intent}
    (hi : (i.parameters.map (·.name)).Nodup) :
    s.intentParameters m i = .ofList (s.typeTexts (i.callParameters m)) := by
  have hentries := s.entries_typeTexts_of_nodup hi
  unfold intentParameters Intent.callParameters
  rw [hentries]
  split
  · rfl
  · rfl

theorem intentParameters_eq {m : Model} {i : Intent} (hi : i.Readable) :
    s.intentParameters m i = .ofList (s.typeTexts (i.callParameters m)) :=
  s.intentParameters_of_nodup m hi.parameters.nodup

/-- Parameters come back under their names, in their order. -/
theorem resolveMap_typeTexts (hw : WellNumbered s) (h : ReadableParameters parameters) :
    BindingModel.resolveMap anyResolver (.ofList (s.typeTexts parameters)) =
      .ok (s.bindingParameters parameters) := by
  unfold BindingModel.resolveMap
  rw [entries_typeTexts h, typeTexts, List.mapM_map]
  refine mapM_eq_ok fun p hp => ?_
  dsimp only [Function.comp_apply]
  rw [ResolvedType.parse_typeText hw (h.wellFormed p hp)]
  rfl

end Snapshot

/-! ## Intents -/

/-- The key of an intent tells its name and whether it gives a handle. -/
theorem splitKey_manifestKey {i : Intent} (h : ¬ suspendMark.toList <+: i.name.toList) :
    BindingModel.splitKey i.manifestKey = (i.name, i.isSuspending) := by
  unfold BindingModel.splitKey Intent.manifestKey
  cases i.isSuspending with
  | true =>
    have hp : suspendMark.toList <+: (suspendMark ++ i.name).toList := by
      rw [String.toList_append]
      exact List.prefix_append _ _
    simp only [if_true]
    rw [if_pos (List.isPrefixOf_iff_prefix.mpr hp), String.toList_append, List.drop_left,
      String.ofList_toList]
  | false =>
    simp only [Bool.false_eq_true, if_false]
    rw [if_neg (mt List.isPrefixOf_iff_prefix.mp h)]

theorem nodup_manifestKeys {intents : List Intent} (hn : (intents.map (·.name)).Nodup)
    (hi : ∀ i ∈ intents, i.Readable) : (intents.map Intent.manifestKey).Nodup := by
  refine List.Nodup.of_map (fun key => (BindingModel.splitKey key).1) ?_
  have hnames : intents.map ((fun key => (BindingModel.splitKey key).1) ∘ Intent.manifestKey) =
      intents.map (·.name) :=
    List.map_congr_left fun i h => congrArg Prod.fst (splitKey_manifestKey (hi i h).unmarked)
  rw [List.map_map, hnames]
  exact hn

namespace Snapshot

variable {s : Snapshot} {m : Model}

theorem intentOf_intentParameters (hw : WellNumbered s) (hm : m.Readable) {i : Intent}
    (hi : i.Readable) :
    BindingModel.intentOf anyResolver (i.manifestKey, s.intentParameters m i) =
      .ok (s.bindingIntent m i) := by
  unfold BindingModel.intentOf
  rw [splitKey_manifestKey hi.unmarked, intentParameters_eq hi,
    resolveMap_typeTexts hw (hi.callParameters hm)]
  rfl

/-! ## Models -/

/-- Intents whose keys stand once are listed one by one. -/
theorem intents_modelData_of_nodup (s : Snapshot)
    (h : (m.distinctIntents.map Intent.manifestKey).Nodup) : (s.modelData m).intents.entries =
      m.distinctIntents.map fun i => (i.manifestKey, s.intentParameters m i) := by
  refine OrderedMap.entries_ofList ?_
  rw [List.map_map]
  exact h

theorem intents_modelData (hm : m.Readable) : (s.modelData m).intents.entries =
    m.distinctIntents.map fun i => (i.manifestKey, s.intentParameters m i) :=
  s.intents_modelData_of_nodup <| nodup_manifestKeys m.nodup_distinctIntents fun i hi =>
    hm.intents i (Model.mem_intents_of_mem_distinctIntents hi)

theorem ofData_modelData (hw : WellNumbered s) (hm : m.Readable) :
    BindingModel.ofData anyResolver (m.qualifiedName, s.modelData m) =
      .ok (s.bindingModel m) := by
  have hintents : (s.modelData m).intents.entries.mapM (BindingModel.intentOf anyResolver) =
      .ok (m.distinctIntents.map (s.bindingIntent m)) := by
    rw [intents_modelData hm, List.mapM_map]
    exact mapM_eq_ok fun i hi => intentOf_intentParameters hw hm
      (hm.intents i (Model.mem_intents_of_mem_distinctIntents hi))
  have hvalues : BindingModel.resolveMap anyResolver (s.modelData m).values =
      .ok (s.bindingParameters m.fields) := resolveMap_typeTexts hw hm.fields
  have hinit : BindingModel.resolveMap anyResolver (s.modelData m).init =
      .ok (s.bindingParameters m.initParameters) := by
    rw [← resolveMap_typeTexts hw hm.init, modelData, Model.initParameters]
    cases m.init <;> rfl
  unfold BindingModel.ofData
  rw [hintents, hvalues, hinit, m.distinctIntents_eq]
  rfl

/-! ## The law of the manifest -/

/-- The text of the manifest of some models, with distinct names and with intents and types that
have a key and a text, is read back without an error as these models, in their order. -/
theorem the_manifest_reads_back {files : List SourceFile} {models : List Model}
    (hs : ofFiles files = .ok s) (hn : (models.map (·.qualifiedName)).Nodup)
    (hm : ∀ m ∈ models, m.Readable) :
    ∃ manifest, Manifest.parse (s.manifest models).text = .ok manifest ∧
      manifest.bindings anyResolver = .ok (models.map s.bindingModel) := by
  refine ⟨s.manifest models, Manifest.parse_text_eq _, ?_⟩
  have hentries : (s.manifest models).models.entries =
      models.map fun m => (m.qualifiedName, s.modelData m) := by
    refine OrderedMap.entries_ofList ?_
    rw [List.map_map]
    exact hn
  unfold Manifest.bindings
  rw [hentries, List.mapM_map]
  exact mapM_eq_ok fun m h => ofData_modelData (lists_ofFiles hs).wellNumbered (hm m h)

/-- A model with a field of a nested class, an init function and an intent that both wait. -/
def playerFile : SourceFile where
  path := "app/Player.kt"
  package := "app"
  declarations :=
    let names : AnnotationNames := {}
    let track : TypeRef := { name := "app.Player.Track" }
    [Node.classNamed "Player" |>.annotated { name := names.model }
      |>.withProperty "queue" (.ofArguments "kotlin.collections.List" [track])
      |>.withMember (Node.classNamed "Track")
      |>.withMember (Node.functionNamed "play" |>.annotated { name := names.intent }
        |>.withModifier .suspend |>.withParameter "track" track)
      |>.withMember (Node.companion |>.withMember (Node.functionNamed "open"
        |>.annotated { name := names.init } |>.withModifier .suspend
        |>.withParameter "path" { name := "kotlin.String" }
        |>.returning { name := "app.Player" }))]

theorem the_player_is_read_back : ∃ s manifest, ofFiles [playerFile] = .ok s ∧
    (s.models {}).map (·.qualifiedName) = ["app.Player"] ∧ (∀ m ∈ s.models {}, m.Readable) ∧
      Manifest.parse (s.manifest (s.models {})).text = .ok manifest ∧
        manifest.bindings anyResolver = .ok ((s.models {}).map s.bindingModel) := by
  have h : ((ofFiles [playerFile]).toOption.any fun s =>
      (s.models {}).map (·.qualifiedName) = ["app.Player"] ∧
        ∀ m ∈ s.models {}, m.Readable) = true := by decide +kernel
  rcases hs : ofFiles [playerFile] with e | s
  · rw [hs] at h
    cases h
  · rw [hs] at h
    obtain ⟨hnames, hm⟩ := of_decide_eq_true h
    have hn : ((s.models {}).map (·.qualifiedName)).Nodup := by
      rw [hnames]
      decide
    obtain ⟨manifest, hparse, hbindings⟩ := the_manifest_reads_back hs hn hm
    exact ⟨s, manifest, rfl, hnames, hm, hparse, hbindings⟩

end Snapshot

end BoundaryGen
