-- What is written for a wrapper. The emitter has a way out for every combination of parts that a
-- step may have; for the steps of a unit the ways out are never taken. The source of a unit ends
-- with the lines of its wrappers; every step has its lines there, and they declare each name once,
-- before it is used.
import Mathlib
import BoundaryGen.Proofs.Wrapper.Lines

namespace BoundaryGen

open Snapshot (InText)

/-! ## Steps that ask a retriever -/

/-- A step asks a retriever in a wrapper of a kind: it hands over the result of the call, it knows
the model and the intent exactly in the wrapper of an intent, and its data has a type. -/
structure RetrieveStep.Fits (kind : WrapperKind) (step : RetrieveStep) : Prop where
  source : step.source = resultVariable
  model : step.modelVariable.isSome = true ↔ kind = .intent
  intent : step.intentName.isSome = true ↔ kind = .intent
  dataType : ∃ type, step.data.type? = some type
  methods : ∀ f name type, step.info = .method f name type ∨ step.data = .method f name type →
    kind = .intent

theorem Snapshot.Lists.fits {s : Snapshot} {es : List SourceEntry} {config : Config} {m : Model}
    {w : Wrapper} {step : RetrieveStep} (h : Lists s es) (hp : PlainNames s config)
    (hw : w ∈ (s.unit config m).1.wrappers) (hstep : step ∈ w.retrieves) : step.Fits w.kind := by
  obtain ⟨site, i, usesRetriever, b, intent, hbinding, hb, hsite, hintent⟩ :=
    exists_bindingFor_of_mem_retrieves hw hstep
  obtain ⟨-, hinfo, hdata, type, htype, -⟩ := h.bound hp hbinding
  cases hb
  constructor
  · rfl
  · rw [Option.isSome_map, hintent]
  · rw [Option.isSome_map, hintent]
  · exact ⟨type, htype⟩
  · rintro f name type (hmethod | hmethod)
    · exact hsite.mp (hinfo.method f name type hmethod)
    · exact hsite.mp (hdata.method f name type hmethod)

namespace Kotlin

variable {w : Wrapper} {step : RetrieveStep} {usual : String}

/-! ## The texts for a retriever -/

/-- The text of an object of a type that has no name of its own. -/
def IsAnonymousObject (text : String) : Prop := ∃ type, text = "object : " ++ type ++ " \x7b\x7d"

/-- A text is the result of the call, or something of it, or a call without arguments. -/
def IsPlainValue (text : String) : Prop :=
  ∃ name, InText name ∧ (text = resultVariable ++ name ∨ text = name ++ "(" ++ ")")

theorem IsPlainValue.ne_null {text : String} (h : IsPlainValue text) : text ≠ "null" := by
  rintro rfl
  obtain ⟨name, -, h | h⟩ := h
  · have hhead := congrArg (·.toList.head?) h
    simp [resultVariable] at hhead
  · have hbracket : '(' ∈ "null".toList := h ▸ by simp
    simp at hbracket

theorem IsPlainValue.not_isAnonymousObject {text : String} (h : IsPlainValue text) :
    ¬ IsAnonymousObject text := by
  rintro ⟨type, rfl⟩
  obtain ⟨name, hname, h⟩ := h
  have hblank : ' ' ∉ name.toList := fun hmem => absurd (hname _ hmem) (by decide +kernel)
  have hmem : ' ' ∈ ("object : " ++ type ++ " \x7b\x7d").toList := by simp
  rcases h with h | h
  · rw [h] at hmem
    simp [resultVariable, hblank] at hmem
  · rw [h] at hmem
    simp [hblank] at hmem

/-- A value that is not absent is written as it was found: nothing neutral takes its place. -/
theorem isPlainValue_of_found (hsource : step.source = resultVariable) (h : AllInText step.names)
    {element : String} (helement : InText element) {v : ValueSource}
    (hname : AllInText v.name?.toList)
    (hmethod : ∀ f name type, v = .method f name type → step.modelVariable.isSome = true)
    (neutral : Expr) :
    (∃ type, v = .absent type) ∨ IsPlainValue (valueFrom step element neutral v).render := by
  obtain ⟨-, -, hmodel, -, hvar, -⟩ := allInText_retrieve.mp h
  have hdot : InText "." := by decide +kernel
  cases v with
  | absent type => exact Or.inl ⟨type, rfl⟩
  | returned => exact Or.inr ⟨"", by decide, Or.inl (by simp [valueFrom, hsource])⟩
  | inPair =>
    refine Or.inr ⟨"." ++ element, inText_append.mpr ⟨hdot, helement⟩, Or.inl ?_⟩
    simp [valueFrom, hsource, String.append_assoc]
  | method f name type =>
    obtain ⟨x, hx⟩ := Option.isSome_iff_exists.mp (hmethod f name type rfl)
    have hx' : InText x := hvar x (by simp [hx])
    have hname' : InText name := hname name (by simp [ValueSource.name?])
    refine Or.inr ⟨x ++ "." ++ name, by simp [hx', hdot, hname'], Or.inr ?_⟩
    simp [valueFrom, hx]
  | companion f name type =>
    have hname' : InText name := hname name (by simp [ValueSource.name?])
    refine Or.inr ⟨step.modelName ++ "." ++ name, by simp [hmodel, hdot, hname'], Or.inr ?_⟩
    simp [valueFrom]

/-- What is written for a step that asks a retriever: the info is `null` exactly when there is none,
the data is an object without a name exactly when there is none, and the retriever is called with
the intent exactly in the wrapper of an intent. -/
structure Hands (w : Wrapper) (step : RetrieveStep) (info data call : String) : Prop where
  info : info = "null" ↔ ∃ type, step.info = .absent type
  data : IsAnonymousObject data ↔ ∃ type, step.data = .absent type
  intent : (∃ rest, call = step.retriever.name ++ ".intent(" ++ rest) ↔ w.kind = .intent
  retrieve : (∃ rest, call = step.retriever.name ++ ".retrieve(" ++ rest) ↔ w.kind = .init

theorem intent_ne_retrieve {name call : String} (h : ∃ rest, call = name ++ ".intent(" ++ rest) :
    ¬ ∃ rest, call = name ++ ".retrieve(" ++ rest := by
  obtain ⟨rest, rfl⟩ := h
  rintro ⟨rest', h⟩
  rw [String.append_assoc, String.append_assoc, String.append_right_inj] at h
  have hchars := congrArg String.toList h
  simp at hchars

/-- The call of a retriever in a wrapper of a kind. -/
theorem render_retrieverCall (hfits : step.Fits w.kind) (type : TypeRef) :
    (w.kind = .intent ∧
      ∃ rest, (retrieverCall step type).render = step.retriever.name ++ ".intent(" ++ rest) ∨
    (w.kind = .init ∧
      ∃ rest, (retrieverCall step type).render = step.retriever.name ++ ".retrieve(" ++ rest) := by
  have happend (name form rest : String) :
      name ++ form ++ "(" ++ rest = name ++ (form ++ "(") ++ rest := by
    simp only [String.append_assoc]
  have hmodel := hfits.model
  have hintent := hfits.intent
  unfold retrieverCall
  cases hkind : w.kind with
  | intent =>
    obtain ⟨x, hx⟩ := Option.isSome_iff_exists.mp (hmodel.mpr hkind)
    obtain ⟨intent, hi⟩ := Option.isSome_iff_exists.mp (hintent.mpr hkind)
    rw [hx, hi, Expr.render_call, happend]
    exact Or.inl ⟨rfl, _, rfl⟩
  | init =>
    have hi : step.intentName = none := by
      rw [← Option.not_isSome_iff_eq_none, hintent, hkind]
      exact nofun
    rw [hi, Expr.render_call, happend]
    exact Or.inr ⟨rfl, _, rfl⟩

theorem hands_of_fits (hfits : step.Fits w.kind) (h : AllInText step.names) (usual : String) :
    Hands w step (valueFrom step "first" .null step.info).render
      (valueFrom step "second" (.emptyObject (step.dataType usual).render) step.data).render
      (retrieverCall step (step.dataType usual)).render := by
  obtain ⟨-, -, -, -, -, -, hinfoName, hdataName, -⟩ := allInText_retrieve.mp h
  have hmethods {f : DeclId} {name : String} {type : TypeRef} (hmethod :
      step.info = .method f name type ∨ step.data = .method f name type) :
      step.modelVariable.isSome = true := hfits.model.mpr (hfits.methods f name type hmethod)
  have hfirst : InText "first" := by decide +kernel
  have hsecond : InText "second" := by decide +kernel
  have hinfo := isPlainValue_of_found hfits.source h hfirst hinfoName
    (fun _ _ _ hmethod => hmethods (Or.inl hmethod)) .null
  have hdata := isPlainValue_of_found hfits.source h hsecond hdataName
    (fun _ _ _ hmethod => hmethods (Or.inr hmethod))
    (.emptyObject (step.dataType usual).render)
  constructor
  · refine ⟨fun hnull => hinfo.resolve_right fun hplain => hplain.ne_null hnull, ?_⟩
    rintro ⟨type, hnone⟩
    rw [hnone]
    rfl
  · refine ⟨fun hobject => hdata.resolve_right fun hplain =>
      hplain.not_isAnonymousObject hobject, ?_⟩
    rintro ⟨type, hnone⟩
    rw [hnone]
    exact ⟨_, rfl⟩
  all_goals
    rcases render_retrieverCall hfits (step.dataType usual) with ⟨hkind, hcall⟩ | ⟨hkind, hcall⟩
  · exact iff_of_true hcall hkind
  · exact iff_of_false (fun h => intent_ne_retrieve h hcall) (by simp [hkind])
  · exact iff_of_false (intent_ne_retrieve hcall) (by simp [hkind])
  · exact iff_of_true hcall hkind

/-! ## The lines of a step -/

/-- What is written for a step of a wrapper: one line, or three for a step that asks a retriever. -/
def Writes (w : Wrapper) : Step → List String → Prop
  | .decode var i type, lines => lines =
      ["val " ++ var ++ " = Json.decodeFromString<" ++ type.render ++
        ">(list[" ++ toString i ++ "])"]
  | .loadModel var function source, lines =>
      lines = ["val " ++ var ++ " = " ++ function ++ "(" ++ source ++ ")"]
  | .call (some result) target arguments, lines => lines =
      ["val " ++ result ++ " = " ++ calleeText target ++ "(" ++ ", ".intercalate arguments ++ ")"]
  | .call none target arguments, lines =>
      lines = [calleeText target ++ "(" ++ ", ".intercalate arguments ++ ")"]
  | .retrieve step, lines => ∃ info data call, Hands w step info data call ∧
      lines = ["val info = " ++ info, "val data = " ++ data, "val " ++ step.result ++ " = " ++ call]
  | .encode var value function, lines =>
      lines = ["val " ++ var ++ " = " ++ function ++ "(" ++ value ++ ")"]
  | .giveBack var, lines => lines = ["return " ++ var]
  | .giveBackLater var, lines => lines = ["return@promise " ++ var ++ ".toJsString()"]

theorem writes_statementsOf {step : Step} (h : AllInText step.names)
    (hfits : ∀ r ∈ step.retrieve?, r.Fits w.kind) (usual : String) :
    Writes w step ((statementsOf usual step).map Statement.render) := by
  cases step with
  | decode var i type =>
    simp [Writes, statementsOf, Statement.render, listVariable, ← String.toList_inj]
  | loadModel var function source =>
    simp [Writes, statementsOf, Statement.render, String.append_assoc]
  | call result target arguments =>
    cases result <;>
      simp [Writes, statementsOf, Statement.render, render_callOf, String.append_assoc]
  | retrieve step => exact ⟨_, _, _, hands_of_fits (hfits step rfl) h usual, rfl⟩
  | encode var value function =>
    simp [Writes, statementsOf, Statement.render, String.append_assoc]
  | giveBack var => rfl
  | giveBackLater var =>
    simp [Writes, statementsOf, Statement.render, ← String.toList_inj]

/-! ## The lines of a wrapper -/

/-- A text on one line that declares nothing. -/
def Silent (text : String) : Prop := OneLine text ∧ valName? text = none

/-- The text of what a wrapper needs around it. -/
def capabilityText : Capability → String
  | .optIn name => "@OptIn(" ++ name ++ "::class)"
  | .boundaryExport => "@JsExport"

/-- The lines in front of the body: an empty one, one for each capability, and the signature. -/
def openingLines (w : Wrapper) : List Line :=
  ⟨0, ""⟩ :: w.capabilities.map (fun c => ⟨0, capabilityText c⟩) ++
    [⟨0, "fun " ++ w.name ++ "(" ++ ", ".intercalate (w.parameters.map (· ++ ": String")) ++
      "): " ++ (if w.isAsync then "kotlin.js.Promise<kotlin.js.JsAny?>" else "String") ++
      " \x7b"⟩] ++
    if w.isAsync then [⟨1, "return CoroutineScope(Job()).promise \x7b"⟩] else []

/-- The lines behind the body. -/
def closingLines (w : Wrapper) : List Line :=
  (if w.isAsync then [⟨1, "\x7d"⟩] else []) ++ [⟨0, "\x7d"⟩]

/-- The lines of the body. -/
def bodyLines (usual : String) (w : Wrapper) : List Line :=
  (body usual w.steps).map fun st => ⟨if w.isAsync then 2 else 1, st.render⟩

theorem text_bodyLines (usual : String) (w : Wrapper) :
    (bodyLines usual w).map Line.text = (body usual w.steps).map Statement.render := by
  rw [bodyLines, List.map_map]
  rfl

theorem wrapperLines_eq (usual : String) (w : Wrapper) :
    wrapperLines usual w = openingLines w ++ bodyLines usual w ++ closingLines w := by
  have hcapabilities : capabilityLine = fun c => ⟨0, capabilityText c⟩ := by
    funext c
    cases c <;> rfl
  unfold wrapperLines openingLines bodyLines closingLines signature Wrapper.isAsync
  rw [hcapabilities]
  cases w.returnKind <;> simp [Function.comp_def, blankLine, handleType]

theorem silent_closingLines (w : Wrapper) : ∀ l ∈ closingLines w, Silent l.text := by
  have hclose : Silent "\x7d" := ⟨by decide, by decide⟩
  unfold closingLines
  split <;> simp [hclose]

theorem silent_openingLines (hname : InText w.name) (hparameters : AllInText w.parameters)
    (hcapabilities : w.capabilities = [.optIn exportOptIn, .boundaryExport]) :
    ∀ l ∈ openingLines w, Silent l.text := by
  have hlist : OneLine (", ".intercalate (w.parameters.map (· ++ ": String"))) := by
    refine oneLine_intercalate fun text htext => ?_
    obtain ⟨name, hmem, rfl⟩ := List.mem_map.mp htext
    simp +decide [oneLine_of_inText (hparameters name hmem)]
  have hsignature (type : String) (htype : OneLine type) : Silent ("fun " ++ w.name ++ "(" ++
      ", ".intercalate (w.parameters.map (· ++ ": String")) ++ "): " ++ type ++ " \x7b") := by
    refine ⟨?_, valName?_of_head (by simp)⟩
    simp +decide [oneLine_of_inText hname, hlist, htype]
  have htext := hsignature "String" (by decide)
  have hhandle := hsignature "kotlin.js.Promise<kotlin.js.JsAny?>" (by decide)
  have hblank : Silent "" := ⟨by decide, by decide⟩
  have hexport : Silent (capabilityText .boundaryExport) := ⟨by decide, by decide⟩
  have hoptIn : Silent (capabilityText (.optIn exportOptIn)) := ⟨by decide, by decide⟩
  have hopen : Silent "return CoroutineScope(Job()).promise \x7b" := ⟨by decide, by decide⟩
  unfold openingLines
  rw [hcapabilities]
  rcases w.isAsync <;> simp [htext, hhandle, hblank, hexport, hoptIn, hopen]

/-- The names that the lines of a wrapper declare, read off their texts. -/
def valNames (usual : String) (w : Wrapper) : List String :=
  (wrapperLines usual w).filterMap fun l => valName? l.text

/-- The lines of a wrapper declare what the statements of its body declare. -/
theorem valNames_eq (hopen : ∀ l ∈ openingLines w, Silent l.text)
    (hshown : ∀ st ∈ body usual w.steps, st.Shown) :
    valNames usual w = declared (body usual w.steps) := by
  have hsilent {lines : List Line} (h : ∀ l ∈ lines, Silent l.text) :
      lines.filterMap (fun l => valName? l.text) = [] :=
    List.filterMap_eq_nil_iff.mpr fun l hl => (h l hl).2
  rw [valNames, wrapperLines_eq, List.filterMap_append, List.filterMap_append, hsilent hopen,
    hsilent (silent_closingLines w), List.nil_append, List.append_nil, bodyLines,
    List.filterMap_map, declared]
  exact List.filterMap_congr fun st hst => (hshown st hst).name

/-! ## Bodies -/

theorem mem_body {st : Statement} {steps : List Step} (h : st ∈ body usual steps) :
    st = listStatement ∨ ∃ step ∈ steps, st ∈ statementsOf usual step := by
  induction steps with
  | nil => cases h
  | cons step rest ih =>
    unfold body at h
    split at h
    · exact (List.mem_cons.mp h).imp_right List.mem_flatMap.mp
    · rcases List.mem_append.mp h with h | h
      · exact Or.inr ⟨step, List.mem_cons_self, h⟩
      · refine (ih h).imp_right ?_
        rintro ⟨step', hstep, hst⟩
        exact ⟨step', List.mem_cons_of_mem step hstep, hst⟩

/-- The usual type of data is written nowhere when all data has a type. -/
theorem statementsOf_congr {step : Step} (usual usual' : String)
    (h : ∀ r ∈ step.retrieve?, ∃ type, r.data.type? = some type) :
    statementsOf usual step = statementsOf usual' step := by
  cases step with
  | retrieve r =>
    obtain ⟨type, htype⟩ := h r rfl
    simp only [statementsOf, RetrieveStep.dataType, htype, Option.getD_some]
  | call result => cases result <;> rfl
  | _ => rfl

theorem body_congr {steps : List Step} (usual usual' : String)
    (h : ∀ step ∈ steps, ∀ r ∈ step.retrieve?, ∃ type, r.data.type? = some type) :
    body usual steps = body usual' steps := by
  induction steps with
  | nil => rfl
  | cons step rest ih =>
    have hall : (step :: rest).flatMap (statementsOf usual) =
        (step :: rest).flatMap (statementsOf usual') :=
      List.flatMap_congr fun step' hmem => statementsOf_congr usual usual' (h step' hmem)
    obtain ⟨hstep, hrest⟩ := List.forall_mem_cons.mp h
    rw [body, body, hall, statementsOf_congr usual usual' hstep, ih hrest]

/-! ## The text of a unit -/

/-- The text of some lines. Each of them ends with a line break. -/
def textOf (lines : List String) : String := String.join (lines.map (· ++ "\n"))

/-- A line as it is written: four blanks for each level, and its text. An empty line stays empty. -/
def Line.written (l : Line) : String :=
  if l.text = "" then "" else String.ofList (List.replicate (4 * l.depth) ' ') ++ l.text

/-- The lines of a wrapper as they are written. -/
def writtenLines (usual : String) (w : Wrapper) : List String :=
  (wrapperLines usual w).map Line.written

theorem Line.render_eq (l : Line) : l.render = l.written ++ "\n" := by
  unfold render written
  by_cases h : l.text = ""
  · simp [h]
  · rw [if_neg (by simpa using h), if_neg h]

/-- The source of a unit is the text of its lines, and those of its wrappers come last. -/
theorem source_eq (usual : String) (u : WrapperUnit) :
    source usual u = textOf ((headerLines u ++ saveLoadLines u).map Line.written ++
      u.wrappers.flatMap (writtenLines usual)) := by
  have hlines : (lines usual u).map Line.written =
      (headerLines u ++ saveLoadLines u).map Line.written ++
        u.wrappers.flatMap (writtenLines usual) := by
    rw [lines, List.map_append, List.map_flatMap]
    rfl
  rw [← hlines, textOf, source, List.map_map]
  exact congrArg String.join (List.map_congr_left fun l _ => l.render_eq)

/-! ## What is emitted -/

/-- What is written for a wrapper. -/
structure Emits (usual : String) (w : Wrapper) : Prop where
  lines : wrapperLines usual w = openingLines w ++ bodyLines usual w ++ closingLines w
  /-- The lines around the body declare nothing. -/
  around : ∀ l ∈ openingLines w ++ closingLines w, Silent l.text
  /-- Every line of the body is one line, and shows the name that its statement declares. -/
  shown : ∀ st ∈ body usual w.steps, st.Shown
  /-- Every name is declared once. -/
  once : (valNames usual w).Nodup
  /-- No name that is declared is the name of a parameter. -/
  apart : ∀ name ∈ valNames usual w, name ∉ w.parameters
  /-- A statement refers to parameters and to names that lines before its own declare. -/
  declared : ∀ before st after, body usual w.steps = before ++ st :: after → ∀ name ∈ st.vars,
    name ∈ w.parameters ∨ ∃ earlier ∈ before, valName? earlier.render = some name
  /-- The list of argument texts is made exactly when an argument is decoded. -/
  list : listVariable ∈ valNames usual w ↔ ∃ step ∈ w.steps, step.isDecode = true
  /-- The body is written step by step, behind the line for the list where there is one. -/
  steps : ∃ written, List.Forall₂ (Writes w) w.steps written ∧
    (bodyLines usual w).map Line.text =
      (if ∃ step ∈ w.steps, step.isDecode = true then
        ["val list = Json.decodeFromString<List<String>>(parameters)"] else []) ++ written.flatten

end Kotlin

namespace Snapshot

open Kotlin (Emits textOf writtenLines)

variable {s : Snapshot} {es : List SourceEntry} {config : Config} {m : Model} {id : DeclId}
variable {w : Wrapper}

/-- All data that a wrapper hands over has a type. -/
theorem Lists.exists_dataType (h : Lists s es) (hp : PlainNames s config)
    (hw : w ∈ (s.unit config m).1.wrappers) :
    ∀ step ∈ w.steps, ∀ r ∈ step.retrieve?, ∃ type, r.data.type? = some type :=
  fun step hstep _ hr => (h.fits hp hw (List.mem_filterMap.mpr ⟨step, hstep, hr⟩)).dataType

theorem Lists.shown (h : Lists s es) (hp : PlainNames s config)
    (hm : s.model? config id = some m) (hw : w ∈ (s.unit config m).1.wrappers) (usual : String) :
    ∀ st ∈ Kotlin.body usual w.steps, st.Shown := by
  intro st hst
  rcases Kotlin.mem_body hst with rfl | ⟨step, hstep, hst⟩
  · exact Kotlin.shown_val (by decide +kernel) (by decide)
  · exact Kotlin.shown_statementsOf ((h.allInText_wrapper hp hm hw).2 step hstep)
      (h.exists_dataType hp hw step hstep) usual st hst

theorem silent_of_mem_wrappers (hname : InText w.name) (hw : w ∈ (s.unit config m).1.wrappers) :
    ∀ l ∈ Kotlin.openingLines w, Kotlin.Silent l.text := by
  obtain ⟨name, kind, function, later, parameters, rest, rfl, hrest⟩ := exists_continues hw
  refine Kotlin.silent_openingLines hname ?_ rfl
  have hmodel : InText modelParameter := by decide +kernel
  have harguments : InText argumentsParameter := by decide +kernel
  rw [Kotlin.parameters_wrapperOf hrest, Kotlin.boundary]
  by_cases hempty : parameters = [] <;> cases kind <;> simp [hempty, hmodel, harguments]

theorem Lists.emits (h : Lists s es) (hp : PlainNames s config) (hm : s.model? config id = some m)
    (hw : w ∈ (s.unit config m).1.wrappers) (usual : String) : Emits usual w := by
  have hshown := h.shown hp hm hw usual
  have hopening := silent_of_mem_wrappers (h.allInText_wrapper hp hm hw).1 hw
  have hnames := Kotlin.valNames_eq hopening hshown
  have hnodup := List.nodup_append.mp (nodup_of_mem_wrappers hw usual)
  constructor
  · exact Kotlin.wrapperLines_eq usual w
  · exact List.forall_mem_append.mpr ⟨hopening, Kotlin.silent_closingLines w⟩
  · exact hshown
  · exact hnames ▸ hnodup.2.1
  · rw [hnames]
    exact fun name hname hparameter => hnodup.2.2 name hparameter name hname rfl
  · intro before st after hbody name hname
    have hscoped := scoped_of_mem_wrappers hw usual
    rw [hbody] at hscoped
    refine (hscoped.mem_of_mem_vars hname).imp_right fun hmem => ?_
    obtain ⟨earlier, hearlier, hdeclares⟩ := List.mem_filterMap.mp hmem
    refine ⟨earlier, hearlier, ?_⟩
    rw [(hshown earlier (hbody ▸ List.mem_append_left _ hearlier)).name, hdeclares]
  · exact hnames ▸ list_mem_declared_iff hw usual
  · refine ⟨w.steps.map fun step => (Kotlin.statementsOf usual step).map Kotlin.Statement.render,
      ?_, ?_⟩
    · rw [List.forall₂_map_right_iff, List.forall₂_same]
      intro step hstep
      refine Kotlin.writes_statementsOf ((h.allInText_wrapper hp hm hw).2 step hstep) ?_ usual
      intro r hr
      exact h.fits hp hw (List.mem_filterMap.mpr ⟨step, hstep, hr⟩)
    · rw [Kotlin.text_bodyLines, body_of_mem_wrappers hw, List.map_append, List.map_flatMap,
        List.flatMap_def, apply_ite (List.map Kotlin.Statement.render)]
      rfl

/-! ## The law of the emission -/

/-- Emission drops nothing and invents nothing where all names are runs of name characters. The
source of a unit does not depend on the usual type of data, and it ends with the lines of the
wrappers, one after the other. The lines of a wrapper are those of its steps in their order, with
the signature around them; they declare each name once, none that a parameter has, and each before
it is used; the list of argument texts is made exactly when an argument is decoded. Info is `null`
and data an object without a name exactly where none was found, and a retriever is called with the
intent exactly in the wrapper of an intent. -/
theorem emission_drops_nothing_and_invents_nothing {files : List SourceFile}
    (hs : ofFiles files = .ok s) (config : Config) (hnames : PlainNames s config)
    (hm : s.model? config id = some m) :
    (∀ usual usual', Kotlin.source usual (s.unit config m).1 =
      Kotlin.source usual' (s.unit config m).1) ∧
    (∀ usual, ∃ front, Kotlin.source usual (s.unit config m).1 =
      textOf (front ++ (s.unit config m).1.wrappers.flatMap (writtenLines usual))) ∧
    ∀ usual, ∀ w ∈ (s.unit config m).1.wrappers, Emits usual w := by
  have h := lists_ofFiles hs
  refine ⟨fun usual usual' => ?_, fun usual => ⟨_, Kotlin.source_eq usual _⟩,
    fun usual w hw => h.emits hnames hm hw usual⟩
  have hlines : (s.unit config m).1.wrappers.flatMap (writtenLines usual) =
      (s.unit config m).1.wrappers.flatMap (writtenLines usual') := by
    refine List.flatMap_congr fun w hw => ?_
    unfold writtenLines Kotlin.wrapperLines
    rw [Kotlin.body_congr usual usual' (h.exists_dataType hnames hw)]
  rw [Kotlin.source_eq, Kotlin.source_eq, hlines]

/-- A parcel whose intent sends it to a place by a retriever, which takes its info from a method. -/
def parcelFile : SourceFile where
  path := "app/Parcel.kt"
  package := "app"
  declarations :=
    let names : AnnotationNames := {}
    let parcel : TypeRef := { name := "app.Parcel" }
    let route : TypeRef := { name := "app.Route" }
    let http : TypeRef := { name := "app.Http" }
    [Node.classNamed "Route",
    Node.classNamed "Http"
      |>.withSuperType ⟨libraryPackage ++ ".Retriever", [⟨.invariant, some route⟩], false⟩,
    Node.classNamed "Parcel" |>.annotated { name := names.model }
      |>.annotated ⟨names.retrieveWith, [⟨none, .type http⟩]⟩
      |>.withMember (Node.functionNamed "route" |>.annotated { name := names.retrieveInfo }
        |>.returning route)
      |>.withMember (Node.companion |>.withMember
        (Node.functionNamed "pack" |>.annotated { name := names.init } |>.returning parcel))
      |>.withMember (Node.functionNamed "send"
        |>.annotated ⟨names.intent, [⟨none, .flag true⟩]⟩
        |>.withParameter "to" { name := "kotlin.Int" })]

/-- The lines of the wrappers of a parcel. -/
def parcelLines : List String :=
  ["",
  "@OptIn(kotlin.js.ExperimentalJsExport::class)",
  "@JsExport",
  "fun initParcel(): String \x7b",
  "    val result = app.Parcel.pack()",
  "    val encoded = saveParcel(result)",
  "    return encoded",
  "\x7d",
  "",
  "@OptIn(kotlin.js.ExperimentalJsExport::class)",
  "@JsExport",
  "fun sendParcel(model: String, parameters: String): kotlin.js.Promise<kotlin.js.JsAny?> \x7b",
  "    return CoroutineScope(Job()).promise \x7b",
  "        val list = Json.decodeFromString<List<String>>(parameters)",
  "        val arg0 = Json.decodeFromString<kotlin.Int>(list[0])",
  "        val nextModel = loadParcel(model)",
  "        val result = nextModel.send(arg0)",
  "        val info = nextModel.route()",
  "        val data = object : " ++ libraryPackage ++ ".RetrieverData \x7b\x7d",
  "        val retrieved = app.Http.intent(info, \"send\", nextModel, app.Parcel::class, " ++
    libraryPackage ++ ".RetrieverData::class, \"app.Parcel\", \"" ++
    libraryPackage ++ ".RetrieverData\", data)",
  "        val encoded = saveParcel(retrieved)",
  "        return@promise encoded.toJsString()",
  "    \x7d",
  "\x7d"]

/-- The parcel has a route and no data. -/
theorem the_parcel_is_sent : ∃ s, ofFiles [parcelFile] = .ok s ∧ PlainNames s {} ∧
    ∃ m ∈ s.models {}, (∃ front, Kotlin.source "" (s.unit {} m).1 = textOf (front ++ parcelLines)) ∧
      ∀ w ∈ (s.unit {} m).1.wrappers, Emits "" w := by
  obtain ⟨s, hs, hnames, m, hm, hlines⟩ := exists_ofFiles_singleton parcelFile (fun s =>
    PlainNames s {} ∧ ∃ m ∈ s.models {},
      (s.unit {} m).1.wrappers.flatMap (writtenLines "") = parcelLines) (by decide +kernel)
  obtain ⟨id, -, hid⟩ := List.mem_filterMap.mp hm
  obtain ⟨-, hsource, hemits⟩ := emission_drops_nothing_and_invents_nothing hs {} hnames hid
  exact ⟨s, hs, hnames, m, hm, hlines ▸ hsource "", hemits ""⟩

end Snapshot

end BoundaryGen
