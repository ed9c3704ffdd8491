-- The lines of a written wrapper. Where all names are runs of name characters, every statement
-- stands on one line, and this line shows the name that the statement declares.
import Mathlib
import BoundaryGen.Proofs.Wrapper.PlainNames
import BoundaryGen.Proofs.Wrapper.Scoping

namespace BoundaryGen

open Snapshot (InText)
open Text (isNameChar)

/-! ## Texts on one line -/

/-- A text that stands on one line. -/
def OneLine (text : String) : Prop := ∀ c ∈ text.toList, c ≠ '\n'

instance : DecidablePred OneLine := fun text =>
  decidable_of_iff (text.toList.all (· ≠ '\n') = true) <| by simp [OneLine]

variable {a b : String}

@[simp]
theorem oneLine_append : OneLine (a ++ b) ↔ OneLine a ∧ OneLine b := by
  simp only [OneLine, String.toList_append, List.forall_mem_append]

theorem oneLine_of_inText (h : InText a) : OneLine a := by
  rintro c hc rfl
  exact absurd (h _ hc) (by decide +kernel)

theorem oneLine_intercalate {texts : List String} (h : ∀ text ∈ texts, OneLine text) :
    OneLine (", ".intercalate texts) := by
  induction texts with
  | nil => decide
  | cons first rest ih =>
    obtain ⟨hfirst, hrest⟩ := List.forall_mem_cons.mp h
    cases rest with
    | nil => exact hfirst
    | cons second rest =>
      rw [String.intercalate_cons_cons, oneLine_append, oneLine_append]
      exact ⟨⟨hfirst, by decide⟩, ih hrest⟩

namespace TypeRef

variable {p : Char → Prop}

theorem forall_mem_commaSeparated (hcomma : p ',') (hblank : p ' ') {pieces : List (List Char)}
    (h : ∀ piece ∈ pieces, ∀ c ∈ piece, p c) : ∀ c ∈ commaSeparated pieces, p c := by
  induction pieces with
  | nil => exact fun _ hc => by cases hc
  | cons piece rest ih =>
    obtain ⟨hpiece, hrest⟩ := List.forall_mem_cons.mp h
    cases rest with
    | nil => exact hpiece
    | cons next rest =>
      rw [commaSeparated, List.forall_mem_append, List.forall_mem_cons, List.forall_mem_cons]
      · exact ⟨hpiece, hcomma, hblank, ih hrest⟩
      · exact List.cons_ne_nil _ _

theorem forall_mem_trim {cs : List Char} (h : ∀ c ∈ cs, p c) : ∀ c ∈ Text.trim cs, p c := by
  intro c hc
  have hskip := (List.dropWhile_suffix _).subset (List.mem_reverse.mp hc)
  exact h c ((List.dropWhile_suffix _).subset (List.mem_reverse.mp hskip))

mutual
/-- The text of a type has no line breaks when its names have none. -/
theorem chars_ne_newline : ∀ t : TypeRef, AllInText t.names → ∀ c ∈ t.chars id, c ≠ '\n'
  | ⟨name, arguments, nullable⟩, h => by
    obtain ⟨hname, harguments⟩ := allInText_cons.mp h
    rw [chars_eq, List.forall_mem_append, List.forall_mem_append]
    refine ⟨oneLine_of_inText hname, ?_, ?_⟩
    · cases arguments with
      | nil => exact fun _ hc => by cases hc
      | cons first rest =>
        have hpieces := argumentChars_ne_newline (first :: rest) harguments
        refine List.forall_mem_append.mpr ⟨List.forall_mem_cons.mpr ⟨by decide, ?_⟩, by simp⟩
        exact forall_mem_commaSeparated (by decide) (by decide) hpieces
    · cases nullable <;> simp [nullableChars]
theorem argumentChars_ne_newline : ∀ as : List TypeArgument, AllInText (argumentNames as) →
    ∀ piece ∈ argumentChars id as, ∀ c ∈ piece, c ≠ '\n'
  | [], _ => fun _ hpiece => by cases hpiece
  | ⟨variance, none⟩ :: rest, h =>
    List.forall_mem_cons.mpr ⟨by simp, argumentChars_ne_newline rest h⟩
  | ⟨variance, some t⟩ :: rest, h => by
    obtain ⟨ht, hrest⟩ := allInText_append.mp h
    refine List.forall_mem_cons.mpr ⟨forall_mem_trim ?_, argumentChars_ne_newline rest hrest⟩
    rw [List.forall_mem_append, List.forall_mem_cons]
    refine ⟨?_, by decide, chars_ne_newline t ht⟩
    cases variance <;> simp [Variance.label]
end

end TypeRef

theorem oneLine_render {t : TypeRef} (h : AllInText t.names) : OneLine t.render := by
  rw [OneLine, TypeRef.render, TypeRef.renderWith, String.toList_ofList]
  exact t.chars_ne_newline h

namespace Kotlin

/-! ## Texts of expressions -/

namespace Expr

variable (e : Expr) (es : List Expr) (name : String)

@[simp]
theorem render_var : (var name).render = name := rfl

@[simp]
theorem render_null : null.render = "null" := rfl

@[simp]
theorem render_element (i : Nat) :
    (element e i).render = e.render ++ "[" ++ toString i ++ "]" := rfl

@[simp]
theorem render_decoded :
    (decoded name e).render = "Json.decodeFromString<" ++ name ++ ">(" ++ e.render ++ ")" := rfl

@[simp]
theorem render_call :
    (call name es).render = name ++ "(" ++ (", ".intercalate (renderAll es) ++ ")") :=
  String.append_assoc

@[simp]
theorem render_member : (member e name es).render =
    e.render ++ "." ++ name ++ "(" ++ (", ".intercalate (renderAll es) ++ ")") :=
  String.append_assoc

@[simp]
theorem render_property : (property e name).render = e.render ++ "." ++ name := rfl

@[simp]
theorem render_classOf : (classOf name).render = name ++ "::class" := rfl

@[simp]
theorem render_quoted : (quoted name).render = "\"" ++ name ++ "\"" := rfl

@[simp]
theorem render_emptyObject : (emptyObject name).render = "object : " ++ name ++ " \x7b\x7d" := rfl

@[simp]
theorem renderAll_nil : renderAll [] = [] := rfl

@[simp]
theorem renderAll_cons : renderAll (e :: es) = e.render :: renderAll es := rfl

@[simp]
theorem renderAll_vars (names : List String) : renderAll (names.map var) = names := by
  induction names with
  | nil => rfl
  | cons name names ih => rw [List.map_cons, renderAll_cons, ih, render_var]

end Expr

/-! ## Lines that declare -/

/-- The name that a line of text declares: what stands behind `val` up to the next blank. -/
def valName? (text : String) : Option String :=
  match text.toList with
  | 'v' :: 'a' :: 'l' :: ' ' :: rest => some (String.ofList (rest.takeWhile (· ≠ ' ')))
  | _ => none

example : valName? "val next = load(model)" = some "next" := by decide

theorem valName?_val {name : String} (h : InText name) (rest : String) :
    valName? ("val " ++ name ++ " = " ++ rest) = some name := by
  have hname : ∀ c ∈ name.toList, decide (c ≠ ' ') = true := fun c hc => by
    rw [decide_eq_true_eq]
    rintro rfl
    exact absurd (h _ hc) (by decide +kernel)
  have hchars : ("val " ++ name ++ " = " ++ rest).toList =
      'v' :: 'a' :: 'l' :: ' ' :: (name.toList ++ ' ' :: '=' :: ' ' :: rest.toList) := by
    simp
  rw [valName?, hchars]
  simp only [List.takeWhile_append_of_pos hname]
  simp

/-- A line that starts with a call declares nothing. -/
theorem valName?_call {callee : String} (h : InText callee) (rest : String) :
    valName? (callee ++ "(" ++ rest) = none := by
  have hchars : (callee ++ "(" ++ rest).toList = callee.toList ++ '(' :: rest.toList := by simp
  unfold valName?
  split
  · rename_i more hval
    -- The name characters at the start end before a bracket, and not before a blank.
    have hdrop := congrArg (List.dropWhile isNameChar) (hchars.symm.trans hval)
    have hbracket : isNameChar '(' = false := by decide +kernel
    have hval' : ('v' :: 'a' :: 'l' :: ' ' :: more).dropWhile isNameChar = ' ' :: more := by
      have hname : ∀ c ∈ ['v', 'a', 'l'], isNameChar c = true := List.all_eq_true.mp (by decide)
      have hblank : isNameChar ' ' = false := by decide +kernel
      exact (List.dropWhile_append_of_pos hname).trans
        (List.dropWhile_cons_of_neg (by simp [hblank]))
    rw [List.dropWhile_append_of_pos h, List.dropWhile_cons_of_neg (by simp [hbracket]),
      hval'] at hdrop
    cases hdrop
  · rfl

theorem valName?_of_head {text : String} (h : text.toList.head? ≠ some 'v') :
    valName? text = none := by
  unfold valName?
  split
  · rename_i hval
    exact absurd (by rw [hval]; rfl) h
  · rfl

/-! ## The lines of statements -/

/-- A statement stands on one line, and the line shows the name that the statement declares. -/
structure Statement.Shown (st : Statement) : Prop where
  oneLine : OneLine st.render
  name : valName? st.render = st.declares?

theorem shown_val {name : String} {value : Expr} (hname : InText name)
    (hvalue : OneLine value.render) : (Statement.val name value).Shown where
  oneLine := by simp +decide [Statement.render, oneLine_of_inText hname, hvalue]
  name := valName?_val hname value.render

/-- What is written of a target in front of its arguments. -/
def calleeText : CallTarget → String
  | .function name => name
  | .member receiver name _ => receiver ++ "." ++ name
  | .companion owner name => owner ++ "." ++ name

theorem inText_calleeText {target : CallTarget} (h : AllInText target.names) :
    InText (calleeText target) := by
  have hdot : InText "." := by decide +kernel
  cases target <;> simpa [calleeText, CallTarget.names, hdot] using h

/-- A call starts with the name of what is called. -/
theorem render_callOf (target : CallTarget) (arguments : List String) :
    (callOf target arguments).render =
      calleeText target ++ "(" ++ (", ".intercalate arguments ++ ")") := by
  cases target <;> simp [callOf, calleeText]

theorem oneLine_callOf {target : CallTarget} (h : AllInText target.names)
    {arguments : List String} (harguments : AllInText arguments) :
    OneLine (callOf target arguments).render := by
  have hlist : OneLine (", ".intercalate arguments) :=
    oneLine_intercalate fun name hname => oneLine_of_inText (harguments name hname)
  rw [render_callOf]
  simp +decide [oneLine_of_inText (inText_calleeText h), hlist]

theorem shown_run {target : CallTarget} (h : AllInText target.names) {arguments : List String}
    (harguments : AllInText arguments) : (Statement.run (callOf target arguments)).Shown where
  oneLine := oneLine_callOf h harguments
  name := by
    rw [Statement.render, render_callOf]
    exact valName?_call (inText_calleeText h) _

section Retrieve

variable {step : RetrieveStep} {element : String} {neutral : Expr} {v : ValueSource}

theorem oneLine_valueFrom (h : AllInText step.names) (hv : AllInText v.name?.toList)
    (helement : OneLine element) (hneutral : OneLine neutral.render) :
    OneLine (valueFrom step element neutral v).render := by
  obtain ⟨-, hsource, hmodel, -, hvar, -⟩ := allInText_retrieve.mp h
  cases v with
  | absent => exact hneutral
  | returned => exact oneLine_of_inText hsource
  | inPair => simp +decide [valueFrom, helement, oneLine_of_inText hsource]
  | method _ name =>
    have hname : OneLine name := oneLine_of_inText (hv name (by simp [ValueSource.name?]))
    cases hx : step.modelVariable with
    | none => simpa [valueFrom, hx] using hneutral
    | some x =>
      have hx' : OneLine x := oneLine_of_inText (hvar x (by simp [hx]))
      simp +decide [valueFrom, hx, hx', hname]
  | companion _ name =>
    have hname : OneLine name := oneLine_of_inText (hv name (by simp [ValueSource.name?]))
    simp +decide [valueFrom, oneLine_of_inText hmodel, hname]

theorem oneLine_retrieverCall (h : AllInText step.names) {dataType : TypeRef}
    (htype : AllInText dataType.names) : OneLine (retrieverCall step dataType).render := by
  have hdata : OneLine dataType.name :=
    oneLine_of_inText (htype _ dataType.name_mem_names)
  obtain ⟨-, -, hmodel, hretriever, hvar, hintent, -⟩ := allInText_retrieve.mp h
  have hmodel' := oneLine_of_inText hmodel
  have hretriever' := oneLine_of_inText hretriever
  unfold retrieverCall
  split
  · rename_i intent x hi hx
    have hi' : OneLine intent := oneLine_of_inText (hintent intent (by simp [hi]))
    have hx' : OneLine x := oneLine_of_inText (hvar x (by simp [hx]))
    simp +decide [hretriever', hmodel', hdata, hi', hx']
  · simp +decide [hretriever', hmodel', hdata]

theorem names_dataType (h : AllInText step.names) {type : TypeRef}
    (htype : step.data.type? = some type) (usual : String) :
    step.dataType usual = type ∧ AllInText type.names := by
  refine ⟨by rw [RetrieveStep.dataType, htype]; rfl, ?_⟩
  simpa [htype] using (allInText_retrieve.mp h).2.2.2.2.2.2.2.2

theorem shown_retrieve (h : AllInText step.names) {type : TypeRef}
    (htype : step.data.type? = some type) (usual : String) :
    ∀ st ∈ statementsOf usual (.retrieve step), st.Shown := by
  obtain ⟨hdataType, hnames⟩ := names_dataType h htype usual
  have hinfo : InText infoVariable := by decide +kernel
  have hdata : InText dataVariable := by decide +kernel
  have hobject : OneLine (Expr.emptyObject type.render).render := by
    simp +decide [oneLine_render hnames]
  obtain ⟨hresult, -, -, -, -, -, hinfoName, hdataName, -⟩ := allInText_retrieve.mp h
  rw [statementsOf, hdataType]
  simp only [List.forall_mem_cons]
  refine ⟨shown_val hinfo ?_, shown_val hdata ?_, shown_val hresult ?_, by simp⟩
  · exact oneLine_valueFrom h hinfoName (by decide) (by decide)
  · exact oneLine_valueFrom h hdataName (by decide) hobject
  · exact oneLine_retrieverCall h hnames

end Retrieve

/-- The statements of a step stand on lines of their own when its names can stand in a text and its
data has a type. -/
theorem shown_statementsOf {step : Step} (h : AllInText step.names)
    (hdata : ∀ r ∈ step.retrieve?, ∃ type, r.data.type? = some type) (usual : String) :
    ∀ st ∈ statementsOf usual step, st.Shown := by
  cases step with
  | decode var i type =>
    obtain ⟨hvar, htype⟩ := allInText_cons.mp h
    have hindex : OneLine i.repr := oneLine_of_inText (inText_repr i)
    refine List.forall_mem_singleton.mpr (shown_val hvar ?_)
    simp +decide [oneLine_render htype, hindex]
  | loadModel var function source =>
    simp only [Step.names, allInText_cons] at h
    obtain ⟨hvar, hfunction, hsource, -⟩ := h
    refine List.forall_mem_singleton.mpr (shown_val hvar ?_)
    simp +decide [oneLine_of_inText hfunction, oneLine_of_inText hsource]
  | call result target arguments =>
    simp only [Step.names, allInText_append] at h
    obtain ⟨⟨hresult, htarget⟩, harguments⟩ := h
    cases result with
    | none => exact List.forall_mem_singleton.mpr (shown_run htarget harguments)
    | some result =>
      exact List.forall_mem_singleton.mpr
        (shown_val (by simpa using hresult) (oneLine_callOf htarget harguments))
  | retrieve step =>
    obtain ⟨type, htype⟩ := hdata step rfl
    exact shown_retrieve h htype usual
  | encode var value function =>
    simp only [Step.names, allInText_cons] at h
    obtain ⟨hvar, hvalue, hfunction, -⟩ := h
    refine List.forall_mem_singleton.mpr (shown_val hvar ?_)
    simp +decide [oneLine_of_inText hfunction, oneLine_of_inText hvalue]
  | giveBack var =>
    simp only [Step.names, allInText_cons] at h
    refine List.forall_mem_singleton.mpr ⟨?_, valName?_of_head ?_⟩
    · simp +decide [Statement.render, oneLine_of_inText h.1]
    · simp [Statement.render]
  | giveBackLater var =>
    simp only [Step.names, allInText_cons] at h
    refine List.forall_mem_singleton.mpr ⟨?_, valName?_of_head ?_⟩
    · simp +decide [Statement.render, oneLine_of_inText h.1]
    · simp [Statement.render]

end Kotlin

end BoundaryGen
