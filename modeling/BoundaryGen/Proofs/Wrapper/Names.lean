-- The names of the functions in a unit. Each is a stem in front of the name of the model: two
-- for saving and loading, one for the init function, and the name of each wrapped intent.
-- Intents are kept apart from each other, but not from the other stems.
import Mathlib
import BoundaryGen.Generation
import BoundaryGen.Proofs.Wrapper.Serving
import BoundaryGen.Source.Build

namespace BoundaryGen

/-! ## Names in a unit -/

namespace WrapperUnit

/-- The names of the functions that the unit declares. -/
def functionNames (u : WrapperUnit) : List String :=
  u.saveFunction :: u.loadFunction :: u.wrappers.map (·.name)

/-- The stems that the unit uses besides the names of intents. -/
def ownStems (u : WrapperUnit) : List String :=
  ["save", "load"] ++ (u.init.map fun _ => "init").toList

theorem nodup_ownStems (u : WrapperUnit) : u.ownStems.Nodup := by
  unfold ownStems
  cases u.init with
  | none => decide
  | some w =>
    simp only [Option.map_some, Option.toList_some]
    decide

end WrapperUnit

/-- A name behind two stems gives two names. -/
theorem stem_injective (name : String) : Function.Injective fun stem : String => stem ++ name := by
  intro a b h
  have hchars := congrArg String.toList h
  simp only [String.toList_append] at hchars
  exact String.toList_injective (List.append_cancel_right hchars)

namespace Snapshot

variable {s : Snapshot} {config : Config} {m : Model}

/-! ## Wrapped intents -/

/-- The intents with a name of their own for which a wrapper can be made. -/
def wrappedIntents (s : Snapshot) (config : Config) (m : Model) : List Intent :=
  m.intents.filter fun i => m.HasOwnName i ∧ (s.intentWrapper config m i).isOk = true

theorem wrappedIntents_eq (s : Snapshot) (config : Config) (m : Model) :
    s.wrappedIntents config m =
      m.distinctIntents.filter fun i => (s.intentWrapper config m i).isOk := by
  rw [m.distinctIntents_eq_filter, List.filter_filter, wrappedIntents]
  apply List.filter_congr
  intro i _
  rw [Bool.decide_and, Bool.decide_eq_true, Bool.and_comm]

theorem nodup_wrappedIntents (s : Snapshot) (config : Config) (m : Model) :
    ((s.wrappedIntents config m).map (·.name)).Nodup := by
  rw [wrappedIntents_eq]
  exact m.nodup_distinctIntents.sublist (List.filter_sublist.map _)

/-- The wrappers that can be made for some intents carry the names of these. -/
theorem names_of_reported (intents : List Intent) :
    ((intents.map fun i => reported (s.intentWrapper config m i)).filterMap (·.1)).map (·.name) =
      (intents.filter fun i => (s.intentWrapper config m i).isOk).map
        fun i => i.name ++ m.name := by
  induction intents with
  | nil => rfl
  | cons i intents ih =>
    rcases hw : s.intentWrapper config m i with e | w
    · simpa [hw, reported, Except.isOk, Except.toBool] using ih
    · have hname : w.name = i.name ++ m.name := (wrapsIntent_of_ok hw).name
      simpa [hw, reported, Except.isOk, Except.toBool, hname] using ih

theorem name_init_unit {w : Wrapper} (h : (s.unit config m).1.init = some w) :
    w.name = "init" ++ m.name := by
  obtain ⟨i, -, hw⟩ := initOutcome_fst_eq_some h
  exact (wrapsInit_of_ok hw).name

/-- The names in a unit are its own stems and the names of the wrapped intents, each in front of
the name of the model. -/
theorem functionNames_unit (s : Snapshot) (config : Config) (m : Model) :
    (s.unit config m).1.functionNames =
      ((s.unit config m).1.ownStems ++ (s.wrappedIntents config m).map (·.name)).map
        fun stem => stem ++ m.name := by
  have hintents : (s.unit config m).1.intents.map (·.name) =
      (s.wrappedIntents config m).map fun i => i.name ++ m.name := by
    rw [wrappedIntents_eq]
    exact names_of_reported m.distinctIntents
  have hinit : (s.unit config m).1.init.toList.map (·.name) =
      ((s.unit config m).1.init.map fun _ => "init").toList.map fun stem => stem ++ m.name := by
    rcases hw : (s.unit config m).1.init with _ | w
    · rfl
    · simp [name_init_unit hw]
  have hsave : (s.unit config m).1.saveFunction = "save" ++ m.name := rfl
  have hload : (s.unit config m).1.loadFunction = "load" ++ m.name := rfl
  simp only [WrapperUnit.functionNames, WrapperUnit.wrappers, WrapperUnit.ownStems,
    List.map_append, List.map_cons, List.map_nil, List.map_map, hintents, hinit, hsave, hload]
  rfl

/-! ## The law of the names -/

/-- The functions of a unit have different names exactly when no wrapped intent has one of the
stems that the unit uses itself: those of saving and loading, and that of the init function when
the init function has a wrapper. -/
theorem names_differ_unless_an_intent_has_a_stem (s : Snapshot) (config : Config) (m : Model) :
    (s.unit config m).1.functionNames.Nodup ↔
      ∀ i ∈ s.wrappedIntents config m, i.name ∉ (s.unit config m).1.ownStems := by
  rw [functionNames_unit, List.nodup_map_iff (stem_injective m.name), List.nodup_append]
  constructor
  · rintro ⟨-, -, hdisjoint⟩ i hi hstem
    exact hdisjoint i.name hstem i.name (List.mem_map_of_mem hi) rfl
  · intro hstems
    refine ⟨WrapperUnit.nodup_ownStems _, nodup_wrappedIntents s config m, ?_⟩
    rintro stem hstem name hname rfl
    obtain ⟨i, hi, rfl⟩ := List.mem_map.mp hname
    exact hstems i hi hstem

/-- A model with an init function and some intents. -/
def draftFile (intents : List String) : SourceFile where
  path := "app/Draft.kt"
  package := "app"
  declarations :=
    let names : AnnotationNames := {}
    let draft : Node := Node.classNamed "Draft" |>.annotated { name := names.model }
      |>.withMember (Node.companion |>.withMember (Node.functionNamed "create"
        |>.annotated { name := names.init } |>.returning { name := "app.Draft" }))
    [intents.foldl (fun node name => node.withMember
      (Node.functionNamed name |>.annotated { name := names.intent })) draft]

/-- Intents under the stems of the unit get wrappers, which have the names of other functions. No
error is reported. -/
theorem the_draft_is_loaded_twice : ∃ s, ofFiles [draftFile ["save", "load", "init"]] = .ok s ∧
    (s.generate {}).units.map (·.functionNames) =
      [["saveDraft", "loadDraft", "initDraft", "saveDraft", "loadDraft", "initDraft"]] ∧
    (s.generate {}).diagnostics = [] :=
  exists_ofFiles_singleton _ _ (by decide +kernel)

end Snapshot

end BoundaryGen
