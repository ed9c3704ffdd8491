-- What an inspection tells of a model against the unit that is made for it. Both look for the
-- retriever of each function on their own, the unit only for the functions that pass its checks.
-- They agree on every function: on what a retriever is handed, and on why a wrapper is missing.
import Mathlib
import BoundaryGen.Generation
import BoundaryGen.Proofs.Generation.Accounting

namespace BoundaryGen

/-! ## Functions in their roles -/

/-- A function of a model in the role that it has there. One function may have two roles, and then
a retriever may be asked for in one of them only. -/
inductive Role where
  | init (i : Init)
  | intent (i : Intent)
  deriving DecidableEq

namespace Role

def decl : Role → DeclId
  | init i => i.decl
  | intent i => i.decl

def qualifiedName : Role → String
  | init i => i.qualifiedName
  | intent i => i.qualifiedName

def usesRetriever : Role → Bool
  | init i => i.usesRetriever
  | intent i => i.usesRetriever

def site : Role → Site
  | init _ => .init
  | intent _ => .intent

/-- The function is left without a wrapper before a retriever is looked for: an init function that
needs an instance, or an intent that shares its name. -/
def Rejected (m : Model) : Role → Prop
  | init i => ∃ parent, i.placement = .nested parent
  | intent i => ¬ m.HasOwnName i

instance (i : Init) : Decidable (∃ parent, i.placement = .nested parent) :=
  match i.placement with
  | .topLevel => isFalse (by simp)
  | .companion _ => isFalse (by simp)
  | .nested parent => isTrue ⟨parent, rfl⟩

instance (m : Model) : DecidablePred (Rejected m)
  | init i => inferInstanceAs (Decidable (∃ parent, i.placement = .nested parent))
  | intent i => inferInstanceAs (Decidable ¬ m.HasOwnName i)

end Role

namespace Model

/-- The functions of a model, the init function first and the intents in their order. -/
def roles (m : Model) : List Role := m.init.toList.map .init ++ m.intents.map .intent

/-- The functions that use a retriever. -/
def rolesWithRetriever (m : Model) : List Role := m.roles.filter (·.usesRetriever)

theorem mem_roles {m : Model} {f : Role} : f ∈ m.roles ↔
    (∃ i, m.init = some i ∧ f = .init i) ∨ ∃ i ∈ m.intents, f = .intent i := by
  simp only [roles, List.mem_append, List.mem_map, Option.mem_toList, eq_comm (a := f)]

end Model

/-! ## Retrieve steps -/

def Step.retrieve? : Step → Option RetrieveStep
  | .retrieve r => some r
  | _ => none

theorem Step.Closing.retrieve? {step : Step} (h : step.Closing) : step.retrieve? = none := by
  cases h <;> rfl

/-- The steps of a wrapper that hand something to a retriever. -/
def Wrapper.retrieves (w : Wrapper) : List RetrieveStep := w.steps.filterMap Step.retrieve?

/-- The retriever of a step, with what it is handed. -/
def RetrieveStep.binding (r : RetrieveStep) : Binding where
  retriever := r.retriever
  info := r.info
  data := r.data

namespace Snapshot

variable {s : Snapshot} {config : Config} {m : Model} {f : Role} {w : Wrapper}

theorem retrieves_decodeSteps (start : Nat) (parameters : List Parameter) :
    (decodeSteps start parameters).filterMap Step.retrieve? = [] :=
  filterMap_decodeSteps (fun _ _ _ => rfl) start parameters

/-- Behind a call whose result is kept, a binding is handed to its retriever once. -/
theorem retrieves_resultSteps (m : Model) (intent : Option Intent) (binding : Option Binding)
    (later : Bool) :
    ((resultSteps m intent binding later).filterMap Step.retrieve?).map RetrieveStep.binding =
      binding.toList := by
  unfold resultSteps
  cases binding with
  | none =>
    dsimp only
    rw [filterMap_closingSteps Step.Closing.retrieve?]
    rfl
  | some b =>
    dsimp only
    rw [List.filterMap_cons_some (show Step.retrieve? (retrieveStep b m intent) = some _ from rfl),
      filterMap_closingSteps Step.Closing.retrieve?]
    rfl

theorem retrieves_intentSteps (m : Model) (i : Intent) (binding : Option Binding) :
    ((intentSteps m i binding).filterMap Step.retrieve?).map RetrieveStep.binding =
      binding.toList := by
  unfold intentSteps
  rw [List.filterMap_cons_none rfl]
  split
  · rw [List.filterMap_cons_none rfl]
    exact retrieves_resultSteps m (some i) binding i.isSuspending
  · rename_i hnone
    rw [Bool.or_eq_true, not_or] at hnone
    rw [Option.not_isSome_iff_eq_none.mp hnone.1, List.filterMap_cons_none rfl,
      filterMap_closingSteps Step.Closing.retrieve?]
    rfl

/-! ## Wrappers of functions -/

/-- The wrapper that is made for a function of a model. -/
def Wraps (s : Snapshot) (config : Config) (m : Model) : Role → Wrapper → Prop
  | .init i => s.WrapsInit config m i
  | .intent i => s.WrapsIntent config m i

/-- A wrapper hands the binding of its function to the retriever, once, if the function uses one. -/
theorem Wraps.retrieves (h : s.Wraps config m f w) :
    ∃ binding, bindingFor s config m f.site f.decl f.usesRetriever = .ok binding ∧
      w.retrieves.map RetrieveStep.binding = binding.toList := by
  cases f with
  | init i =>
    obtain ⟨binding, hbinding, rfl⟩ := exists_of_initWrapper h.made
    refine ⟨binding, hbinding, ?_⟩
    unfold Wrapper.retrieves wrapperOf
    rw [List.filterMap_append, retrieves_decodeSteps, initSteps, List.nil_append,
      List.filterMap_cons_none rfl]
    exact retrieves_resultSteps m none binding i.isSuspending
  | intent i =>
    obtain ⟨binding, hbinding, rfl⟩ := exists_of_intentWrapper h.made
    refine ⟨binding, hbinding, ?_⟩
    unfold Wrapper.retrieves wrapperOf
    rw [List.filterMap_append, retrieves_decodeSteps, List.nil_append]
    exact retrieves_intentSteps m i binding

/-- A function gets a wrapper: it is not rejected, and its retriever is found if it uses one. -/
def IsWrapped (s : Snapshot) (config : Config) (m : Model) (f : Role) : Prop :=
  ¬ f.Rejected m ∧ s.Served config m f.decl f.usesRetriever

instance (s : Snapshot) (config : Config) (m : Model) : DecidablePred (s.IsWrapped config m) :=
  fun f => inferInstanceAs (Decidable (¬ f.Rejected m ∧ _))

/-- The functions of a model that get a wrapper. -/
def wrappedRoles (s : Snapshot) (config : Config) (m : Model) : List Role :=
  m.roles.filter (s.IsWrapped config m ·)

theorem mem_wrappedRoles : f ∈ s.wrappedRoles config m ↔
    f ∈ m.roles ∧ s.IsWrapped config m f := by
  rw [wrappedRoles, List.mem_filter, decide_eq_true_eq]

/-- The init function is a wrapped function exactly when its wrapper is made. -/
theorem wraps_init (hs : Functions s m) (config : Config) :
    List.Forall₂ (s.Wraps config m)
      ((m.init.toList.map Role.init).filter (s.IsWrapped config m ·))
      (s.unit config m).1.init.toList := by
  rcases initOutcome_cases hs config with
    ⟨i, w, hi, hstart, -, hw, hout⟩ | ⟨fault, hstart, -, hout⟩
  · have hunit : (s.unit config m).1.init = some w := congrArg Prod.fst hout
    have hwrapped : s.IsWrapped config m (.init i) := ⟨not_exists.mpr hstart.1, hstart.2⟩
    rw [hunit, hi, Option.toList_some, List.map_singleton,
      List.filter_cons_of_pos (by simpa only [decide_eq_true_eq] using hwrapped)]
    exact .cons hw .nil
  · have hunit : (s.unit config m).1.init = none := congrArg Prod.fst hout
    rw [hunit]
    rcases hi : m.init with _ | i
    · exact .nil
    · have hrejected : ¬ s.IsWrapped config m (.init i) := fun h =>
        hstart i hi ⟨not_exists.mp h.1, h.2⟩
      rw [Option.toList_some, List.map_singleton,
        List.filter_cons_of_neg (by simpa only [decide_eq_true_eq] using hrejected)]
      exact .nil

theorem wraps_intents (hs : Functions s m) (config : Config) :
    List.Forall₂ (s.Wraps config m)
      ((m.intents.map Role.intent).filter (s.IsWrapped config m ·))
      (s.unit config m).1.intents := by
  have hfilter : (m.intents.map Role.intent).filter (s.IsWrapped config m ·) =
        (m.intents.filter fun i =>
          m.HasOwnName i ∧ s.Served config m i.decl i.usesRetriever).map .intent := by
    rw [List.filter_map]
    refine congrArg _ (List.filter_congr fun i _ => ?_)
    rw [Function.comp_apply, decide_eq_decide]
    exact and_congr_left fun _ => not_not
  rw [hfilter, List.forall₂_map_left_iff]
  exact intents_unit hs config

/-- The wrappers of a unit are those of the functions that get one, in their order. -/
theorem wraps_unit (hs : Functions s m) (config : Config) :
    List.Forall₂ (s.Wraps config m) (s.wrappedRoles config m) (s.unit config m).1.wrappers := by
  rw [wrappedRoles, Model.roles, List.filter_append]
  exact List.rel_append (wraps_init hs config) (wraps_intents hs config)

/-! ## Reports -/

/-- What is reported of a function that uses a retriever. -/
def reportOn (s : Snapshot) (config : Config) (m : Model) (f : Role) : RetrieverReport where
  function := f.qualifiedName
  outcome := s.bindAt config f.decl m.decl f.site

theorem retrievers_report (s : Snapshot) (config : Config) (m : Model) :
    (s.report config m).retrievers = m.rolesWithRetriever.map (s.reportOn config m) := by
  rw [Model.rolesWithRetriever, Model.roles, List.filter_append, List.map_append, List.filter_map,
    List.filter_map, List.map_map, List.map_map]
  rfl

theorem mem_zip_reports {report : RetrieverReport} :
    (f, report) ∈ m.rolesWithRetriever.zip (s.report config m).retrievers ↔
      f ∈ m.rolesWithRetriever ∧ report = s.reportOn config m f := by
  have hzip : m.rolesWithRetriever.zip (s.report config m).retrievers =
      m.rolesWithRetriever.map fun f => (f, s.reportOn config m f) := by
    rw [retrievers_report, ← List.zip_map', List.map_id']
  rw [hzip, List.mem_map]
  constructor
  · rintro ⟨g, hg, ⟨⟩⟩
    exact ⟨hg, rfl⟩
  · rintro ⟨hf, rfl⟩
    exact ⟨f, hf, rfl⟩

/-- What the reports on a model tell of its unit, where `ds` are the diagnostics of the run. -/
structure Tells (s : Snapshot) (config : Config) (m : Model) (u : WrapperUnit) (ds : Diagnostics)
    (reports : List RetrieverReport) : Prop where
  /-- One report for each function that uses a retriever, under its name. -/
  functions : List.Forall₂ (fun f report => report.function = f.qualifiedName)
    m.rolesWithRetriever reports
  /-- One wrapper for each function that gets one. It asks a retriever once if the function uses
  one, and never otherwise. -/
  wrappers : List.Forall₂ (fun f w => s.Wraps config m f w ∧ w.function = f.qualifiedName ∧
    w.retrieves.length = if f.usesRetriever then 1 else 0) (s.wrappedRoles config m) u.wrappers
  /-- A wrapper hands over what is reported of its function. -/
  bindings : ∀ f w, (f, w) ∈ (s.wrappedRoles config m).zip u.wrappers → ∀ r ∈ w.retrieves,
    ∃ report, (f, report) ∈ m.rolesWithRetriever.zip reports ∧
      ∀ report', (f, report') ∈ m.rolesWithRetriever.zip reports → report'.outcome = .ok r.binding
  /-- A function with an error has no wrapper, and no wrapper of the same declaration asks a
  retriever. The error is a diagnostic of the run unless the function was rejected before. -/
  errors : ∀ f report e, (f, report) ∈ m.rolesWithRetriever.zip reports →
    report.outcome = .error e →
    f ∉ s.wrappedRoles config m ∧
    (∀ g ∈ s.wrappedRoles config m, g.decl = f.decl → g.usesRetriever = false) ∧
    (¬ f.Rejected m → ∃ d ∈ ds, (Error.retriever e).message = "Resolution error: " ++ d.message)

theorem Wraps.function (h : s.Wraps config m f w) : w.function = f.qualifiedName := by
  cases f with
  | init i => exact WrapsInit.function h
  | intent i => exact WrapsIntent.function h

/-- The wrapper of a function that uses a retriever hands over what is bound for it. -/
theorem Wraps.retrieves_eq (h : s.Wraps config m f w) (hf : f.usesRetriever = true) :
    ∃ r, w.retrieves = [r] ∧ s.bindAt config f.decl m.decl f.site = .ok r.binding := by
  obtain ⟨binding, hbinding, hretrieves⟩ := h.retrieves
  rw [bindingFor, if_pos hf] at hbinding
  obtain ⟨b, hb, rfl⟩ := exists_of_map_eq_ok hbinding
  obtain ⟨r, hr, rfl⟩ := List.map_eq_singleton_iff.mp hretrieves
  exact ⟨r, hr, hb⟩

theorem Wraps.retrieves_eq_nil (h : s.Wraps config m f w) (hf : f.usesRetriever = false) :
    w.retrieves = [] := by
  obtain ⟨binding, hbinding, hretrieves⟩ := h.retrieves
  rw [bindingFor, hf, if_neg Bool.false_ne_true] at hbinding
  cases hbinding
  exact List.map_eq_nil_iff.mp hretrieves

theorem Functions.role (hs : Functions s m) (hf : f ∈ m.roles) : (s.get? f.decl).isSome := by
  rcases Model.mem_roles.mp hf with ⟨i, hi, rfl⟩ | ⟨i, hi, rfl⟩
  · exact hs.init i hi
  · exact hs.intents i hi

/-- What is reported of a function is an error exactly when its retriever is not found. -/
theorem not_served_of_reportOn (hs : Functions s m) (hf : f ∈ m.rolesWithRetriever)
    {e : RetrieverMissing} (he : (s.reportOn config m f).outcome = .error e) :
    ¬ s.Served config m f.decl true ∧
      s.retrieverFault? config m f.decl f.usesRetriever = some (.retrieverMissing e.function) := by
  obtain ⟨hmem, huses⟩ := List.mem_filter.mp hf
  have hbind : bindingFor s config m f.site f.decl true = .error e := by
    rw [bindingFor, if_pos rfl]
    exact congrArg (some <$> ·) he
  rw [huses, retrieverFault?]
  rcases bindingFor_cases hs.model (hs.role hmem) config f.site true with
    ⟨-, -, b, hb⟩ | ⟨hserved, e', herror, he'⟩
  · rw [hbind] at hb
    cases hb
  · rw [hbind] at he'
    cases he'
    exact ⟨hserved, by rw [herror]; rfl⟩

/-- The fault of a function that is not rejected is one of the faults of its model. -/
theorem mem_faults_of_role (hf : f ∈ m.roles) (hok : ¬ f.Rejected m) {fault : Finding}
    (h : s.retrieverFault? config m f.decl f.usesRetriever = some fault) :
    fault ∈ s.faults config m := by
  refine And.left (b := fault.diagnostic.severity = .error) (mem_faults_and_error.mpr ?_)
  rcases Model.mem_roles.mp hf with ⟨i, hi, rfl⟩ | ⟨i, hi, rfl⟩
  · refine Or.inr (Or.inl ?_)
    rw [initFault?_of_static hi (not_exists.mp hok)]
    exact h
  · exact Or.inr (Or.inr ⟨i, hi, not_not.mp hok, h⟩)

theorem tells_report (hs : Functions s m) (hm : m ∈ s.models config) :
    Tells s config m (s.unit config m).1 (s.generate config).diagnostics
      (s.report config m).retrievers where
  functions := by
    rw [retrievers_report, List.forall₂_map_right_iff]
    exact List.forall₂_same.mpr fun f _ => rfl
  wrappers := by
    refine (wraps_unit hs config).imp fun f w h => ⟨h, h.function, ?_⟩
    rcases hf : f.usesRetriever with _ | _
    · rw [h.retrieves_eq_nil hf]
      rfl
    · obtain ⟨r, hr, -⟩ := h.retrieves_eq hf
      rw [hr]
      rfl
  bindings := by
    intro f w hfw r hr
    have hwraps : s.Wraps config m f w := List.forall₂_zip (wraps_unit hs config) hfw
    have hroles : f ∈ m.roles := (mem_wrappedRoles.mp (List.of_mem_zip hfw).1).1
    have huses : f.usesRetriever = true := by
      rcases hf : f.usesRetriever with _ | _
      · rw [hwraps.retrieves_eq_nil hf] at hr
        cases hr
      · rfl
    obtain ⟨r', hr', hbind⟩ := hwraps.retrieves_eq huses
    rw [hr', List.mem_singleton] at hr
    subst hr
    refine ⟨s.reportOn config m f,
      mem_zip_reports.mpr ⟨List.mem_filter.mpr ⟨hroles, huses⟩, rfl⟩, ?_⟩
    intro report' hreport'
    obtain ⟨-, rfl⟩ := mem_zip_reports.mp hreport'
    exact hbind
  errors := by
    intro f report e hreport he
    obtain ⟨hf, rfl⟩ := mem_zip_reports.mp hreport
    obtain ⟨hroles, huses⟩ := List.mem_filter.mp hf
    obtain ⟨hserved, hfault⟩ := not_served_of_reportOn hs hf he
    have hother : ∀ g ∈ s.wrappedRoles config m, g.decl = f.decl → g.usesRetriever = false := by
      intro g hg hdecl
      have hgserved := (mem_wrappedRoles.mp hg).2.2
      rcases hguses : g.usesRetriever with _ | _
      · rfl
      · rw [hguses, hdecl] at hgserved
        exact absurd hgserved hserved
    refine ⟨?_, hother, ?_⟩
    · intro hwrapped
      rw [hother f hwrapped rfl] at huses
      cases huses
    · intro hok
      have hsaid : Finding.retrieverMissing e.function ∈ (s.unit config m).2 := by
        rw [findings_unit hs config]
        exact mem_faults_of_role hroles hok hfault
      refine ⟨_, diagnostics_subset_generate hm (List.mem_map_of_mem hsaid), ?_⟩
      rfl

/-! ## The law of the inspection -/

/-- An inspection reports the models of a generation in their order, and its reports on a model tell
what the unit of the model does. -/
theorem inspection_tells_what_is_generated {files : List SourceFile}
    (hs : ofFiles files = .ok s) (config : Config) :
    (s.inspect config).map (·.model) = (s.generate config).models ∧
    List.Forall₂
      (fun report made => report.model = made.1 ∧
        Tells s config made.1 made.2 (s.generate config).diagnostics report.retrievers)
      (s.inspect config) ((s.generate config).models.zip (s.generate config).units) := by
  have hw : WellNumbered s := (lists_ofFiles hs).wellNumbered
  constructor
  · rw [inspect, List.map_map]
    exact List.map_id' _
  · rw [zip_generate, inspect, List.forall₂_map_left_iff, List.forall₂_map_right_iff]
    exact List.forall₂_same.mpr fun m hm => ⟨rfl, tells_report (hw.functions hm) hm⟩

/-- A desk whose init function and whose method `send` name a retriever. The method `ask` names
none, `keep` shares its name with an extension, and `tidy` uses no retriever. -/
def deskFile : SourceFile where
  path := "app/Desk.kt"
  package := "app"
  declarations :=
    let names : AnnotationNames := {}
    let desk : TypeRef := { name := "app.Desk" }
    let retrieving (node : Node) (mark : String) : Node :=
      node.annotated { name := mark, arguments := [{ value := .flag true }] }
    let withHttp (node : Node) : Node :=
      node.annotated
        { name := names.retrieveWith, arguments := [{ value := .type { name := "app.Http" } }] }
    [Node.classNamed "Http",
    Node.classNamed "Desk" |>.annotated { name := names.model }
      |>.withMember (Node.companion
        |>.withMember (withHttp (retrieving (Node.functionNamed "open") names.init)))
      |>.withMember (retrieving (Node.functionNamed "ask") names.intent)
      |>.withMember (withHttp (retrieving (Node.functionNamed "send") names.intent))
      |>.withMember (withHttp (retrieving (Node.functionNamed "keep") names.intent))
      |>.withMember (Node.functionNamed "tidy" |>.annotated { name := names.intent }),
    retrieving (Node.functionNamed "keep" |>.onReceiver desk) names.intent]

/-- Five functions of the desk are reported on. Three wrappers are made, and two of them ask the
retriever: `keep` is left out for its name, and `ask` for its retriever. -/
theorem the_desk_is_inspected_as_it_is_generated : ∃ s, ofFiles [deskFile] = .ok s ∧
    (s.inspect {}).map (fun report => report.retrievers.map fun r =>
      (r.function, (r.outcome.map (·.retriever.name)).toOption)) =
        [[("app.Desk.Companion.open", some "app.Http"), ("app.Desk.ask", none),
          ("app.Desk.send", some "app.Http"), ("app.Desk.keep", some "app.Http"),
          ("app.keep", none)]] ∧
    (s.generate {}).units.map (fun u => u.wrappers.map fun w => (w.function, w.retrieves.length)) =
      [[("app.Desk.Companion.open", 1), ("app.Desk.send", 1), ("app.Desk.tidy", 0)]] ∧
    List.Forall₂
      (fun report made => report.model = made.1 ∧
        Tells s {} made.1 made.2 (s.generate {}).diagnostics report.retrievers)
      (s.inspect {}) ((s.generate {}).models.zip (s.generate {}).units) := by
  obtain ⟨s, hs, hreports, hunits⟩ := exists_ofFiles_singleton deskFile (fun s =>
    (s.inspect {}).map (fun report => report.retrievers.map fun r =>
      (r.function, (r.outcome.map (·.retriever.name)).toOption)) =
        [[("app.Desk.Companion.open", some "app.Http"), ("app.Desk.ask", none),
          ("app.Desk.send", some "app.Http"), ("app.Desk.keep", some "app.Http"),
          ("app.keep", none)]] ∧
    (s.generate {}).units.map (fun u => u.wrappers.map fun w => (w.function, w.retrieves.length)) =
      [[("app.Desk.Companion.open", 1), ("app.Desk.send", 1), ("app.Desk.tidy", 0)]])
    (by decide +kernel)
  exact ⟨s, hs, hreports, hunits, (inspection_tells_what_is_generated hs {}).2⟩

end Snapshot

end BoundaryGen
