-- The search through the super types of classes, step by step. Super types may lead in circles,
-- come together again, or have no class; each name is searched once, so that every search comes to
-- an end, and it ends at its target exactly when the target can be reached.
import Mathlib
import BoundaryGen.Proofs.Snapshot.Assignability
import BoundaryGen.Source.Build

namespace BoundaryGen.Snapshot

variable {s : Snapshot} {target name super : String}

/-! ## Super types -/

/-- The class that a name means is declared with a super type of another name. -/
def Extends (s : Snapshot) (name super : String) : Prop :=
  ∃ i d shape, s.findClass name = some i ∧ s.get? i = some d ∧ d.class? = some shape ∧
    ∃ type ∈ shape.superTypes, type.name = super

theorem mem_superNames_iff : super ∈ s.superNames name ↔ s.Extends name super := by
  unfold superNames Extends classNamed
  rcases s.findClass name with _ | i
  · simp
  rcases hget : s.get? i with _ | d
  · simp [hget]
  rcases hclass : d.class? with _ | shape <;> simp [hget, hclass]

theorem leadsTo_iff_reflTransGen :
    s.LeadsTo name target ↔ Relation.ReflTransGen s.Extends name target := by
  have hstep : (fun name super => super ∈ s.superNames name) = s.Extends := by
    funext name super
    exact propext mem_superNames_iff
  rw [LeadsTo, hstep]

/-! ## Steps of a search -/

/-- The names that a search has dealt with, and those that wait, the next one first. -/
structure Search where
  seen : List String
  waiting : List String

namespace Search

/-- One step of a search whose target is not next. A name that was seen before is dropped; any other
makes room for the super types of its class, the last of them first. -/
inductive Step (s : Snapshot) (target : String) : Search → Search → Prop
  | drop {name : String} {seen rest : List String} : name ≠ target → name ∈ seen →
    Step s target ⟨seen, name :: rest⟩ ⟨seen, rest⟩
  | visit {name : String} {seen rest : List String} : name ≠ target → name ∉ seen →
    Step s target ⟨seen, name :: rest⟩ ⟨name :: seen, (s.superNames name).reverse ++ rest⟩

/-- No step leads on. -/
def Ended (s : Snapshot) (target : String) (x : Search) : Prop := ∀ y, ¬ Step s target x y

/-- The target is next. -/
def Finds (target : String) (x : Search) : Prop := x.waiting.head? = some target

/-- The steps that a search can still take. -/
def remaining (s : Snapshot) (x : Search) : Nat := x.waiting.length + s.unseenCount x.seen

variable {x y : Search} {fuel : Nat}

theorem Step.remaining_lt (hw : WellNumbered s) (h : Step s target x y) :
    y.remaining s < x.remaining s := by
  cases h with
  | drop => exact Nat.add_lt_add_right (Nat.lt_succ_self _) _
  | visit _ hseen =>
    have hcount := unseenCount_visit hw hseen
    simp only [remaining, List.length_append, List.length_reverse, List.length_cons]
    omega

/-- A search with fuel follows the steps. -/
theorem Step.reaches_eq (h : Step s target x y) :
    s.reaches target (fuel + 1) x.seen x.waiting = s.reaches target fuel y.seen y.waiting := by
  cases h with
  | drop hne hseen => rw [reaches, if_neg hne, if_pos hseen]
  | visit hne hseen => rw [reaches, if_neg hne, if_neg hseen]

theorem Finds.ended (h : x.Finds target) : x.Ended s target := by
  intro y hstep
  cases hstep with
  | drop hne => exact hne (Option.some.inj h)
  | visit hne => exact hne (Option.some.inj h)

theorem reaches_of_finds (h : x.Finds target) :
    s.reaches target (fuel + 1) x.seen x.waiting = true := by
  obtain ⟨seen, waiting⟩ := x
  obtain ⟨rest, rfl⟩ := List.head?_eq_some_iff.mp h
  rw [reaches, if_pos rfl]

/-- A search goes on, or the target is next, or nothing waits any more. -/
theorem step_or_finds (s : Snapshot) (target : String) (x : Search) :
    (∃ y, Step s target x y) ∨ x.Finds target ∨ x.waiting = [] := by
  obtain ⟨seen, _ | ⟨name, rest⟩⟩ := x
  · exact Or.inr (Or.inr rfl)
  by_cases hfound : name = target
  · exact Or.inr (Or.inl (congrArg some hfound))
  by_cases hseen : name ∈ seen
  · exact Or.inl ⟨_, .drop hfound hseen⟩
  · exact Or.inl ⟨_, .visit hfound hseen⟩

/-- With fuel for the steps that remain, a search runs to its end and tells what it finds there. -/
theorem exists_end (hw : WellNumbered s) (target : String) (hfuel : x.remaining s < fuel) :
    ∃ last, Relation.ReflTransGen (Step s target) x last ∧ last.Ended s target ∧
      (s.reaches target fuel x.seen x.waiting ↔ last.Finds target) := by
  induction fuel generalizing x with
  | zero => exact absurd hfuel (Nat.not_lt_zero _)
  | succ fuel ih =>
    rcases step_or_finds s target x with ⟨y, hstep⟩ | hfinds | hnone
    · have hless := hstep.remaining_lt hw
      obtain ⟨last, hrun, hended, hfound⟩ := ih (x := y) (by omega)
      rw [hstep.reaches_eq]
      exact ⟨last, .head hstep hrun, hended, hfound⟩
    · exact ⟨x, .refl, hfinds.ended, iff_of_true (reaches_of_finds hfinds) hfinds⟩
    · refine ⟨x, .refl, ?_, ?_⟩
      · intro y hstep
        cases hstep <;> cases hnone
      · rw [hnone, Finds, hnone]
        simp [reaches]

/-- No search goes on for ever, wherever it starts. -/
theorem wellFounded_step (hw : WellNumbered s) (target : String) :
    WellFounded (Function.swap (Step s target)) :=
  Subrelation.wf (fun h => Step.remaining_lt hw h) (measure (remaining s)).wf

end Search

/-! ## The law of assignability -/

/-- Every search ends. A type serves where another is wanted exactly when it is not nullable and the
search from its name ends at the other, and that is when some steps from a name to the name of a
declared super type lead there. -/
theorem assignability_is_reachability {files : List SourceFile} (hs : ofFiles files = .ok s)
    (target : String) :
    WellFounded (Function.swap (Search.Step s target)) ∧
    ∀ candidate : TypeRef,
      (∃ last, Relation.ReflTransGen (Search.Step s target) ⟨[], [candidate.name]⟩ last ∧
        last.Ended s target ∧
        (s.isAssignable target candidate ↔ candidate.nullable = false ∧ last.Finds target)) ∧
      (s.isAssignable target candidate ↔
        candidate.nullable = false ∧ Relation.ReflTransGen s.Extends candidate.name target) := by
  have hw := (lists_ofFiles hs).wellNumbered
  refine ⟨Search.wellFounded_step hw target, ?_⟩
  intro candidate
  constructor
  · have hfuel : Search.remaining s ⟨[], [candidate.name]⟩ < s.superTypeCount + 2 := by
      rw [Search.remaining, unseenCount_nil, List.length_singleton]
      omega
    obtain ⟨last, hrun, hended, hfound⟩ := Search.exists_end hw target hfuel
    refine ⟨last, hrun, hended, ?_⟩
    rw [isAssignable, Bool.and_eq_true, Bool.not_eq_true', hfound]
  · rw [hw.isAssignable_iff, leadsTo_iff_reflTransGen]

/-- Classes of shapes. A circle is round and an oval, and both are shapes; round things are circles
again. A loop is a loop. The class of what is drawn is not declared. -/
def shapesFile : SourceFile where
  path := "app/Shapes.kt"
  package := "app"
  declarations :=
    let extending (name : String) (supers : List String) : Node :=
      supers.foldl (fun node super => node.withSuperType { name := super }) (.classNamed name)
    [extending "Circle" ["app.Round", "app.Oval"], extending "Round" ["app.Shape", "app.Circle"],
      extending "Oval" ["app.Shape"], extending "Shape" ["lib.Drawn"],
      extending "Loop" ["app.Loop"]]

theorem circles_are_drawn : ∃ s, ofFiles [shapesFile] = .ok s ∧
    Relation.ReflTransGen s.Extends "app.Circle" "lib.Drawn" ∧
    ¬ s.isAssignable "lib.Drawn" { name := "app.Circle", nullable := true } ∧
    (∃ last, Relation.ReflTransGen (Search.Step s "lib.Drawn") ⟨[], ["app.Loop"]⟩ last ∧
      last.Ended s "lib.Drawn" ∧ ¬ last.Finds "lib.Drawn") ∧
    ¬ Relation.ReflTransGen s.Extends "app.Loop" "lib.Drawn" := by
  obtain ⟨s, hs, hcircle, hloop⟩ := exists_ofFiles_singleton shapesFile (fun s =>
    s.isAssignable "lib.Drawn" { name := "app.Circle" } = true ∧
    s.isAssignable "lib.Drawn" { name := "app.Loop" } = false) (by decide +kernel)
  obtain ⟨-, hlaw⟩ := assignability_is_reachability hs "lib.Drawn"
  refine ⟨s, hs, ((hlaw _).2.mp hcircle).2, ?_, ?_, ?_⟩
  · intro hnullable
    cases ((hlaw _).2.mp hnullable).1
  · obtain ⟨last, hrun, hended, hfound⟩ := (hlaw { name := "app.Loop" }).1
    rw [hloop] at hfound
    exact ⟨last, hrun, hended, fun hfinds => Bool.false_ne_true (hfound.mpr ⟨rfl, hfinds⟩)⟩
  · intro hreached
    have htrue := (hlaw { name := "app.Loop" }).2.mpr ⟨rfl, hreached⟩
    rw [hloop] at htrue
    cases htrue

end BoundaryGen.Snapshot
