-- The functions that carry an annotation: every function of a snapshot that carries it is found,
-- as often as it carries it, and nothing else. They come in the order of the source.
import Mathlib
import BoundaryGen.Proofs.Snapshot.Annotated
import BoundaryGen.Proofs.Wrapper.Unit

namespace BoundaryGen

namespace Snapshot

variable {s : Snapshot} {es : List SourceEntry} {name : String} {d : Declaration}

/-- What is found for an annotation is every function that carries it. -/
theorem Lists.mem_functionsAnnotated (h : Lists s es) {f : FunctionShape} :
    (d, f) ∈ s.functionsAnnotated name ↔
      d ∈ s.declarations ∧ d.function? = some f ∧ 0 < d.timesMarked name := by
  have hw := h.wellNumbered
  unfold functionsAnnotated
  simp only [List.mem_filterMap, Option.bind_eq_bind, Option.bind_eq_some_iff, Option.pure_def,
    Option.some.injEq, Prod.mk.injEq]
  constructor
  · rintro ⟨i, hi, d, hd, f, hf, rfl, rfl⟩
    obtain ⟨d', hd', rfl, hmarked⟩ := h.mem_annotated_iff.mp hi
    rw [hw.get?_id hd'] at hd
    cases hd
    exact ⟨hd', hf, hmarked⟩
  · rintro ⟨hd, hf, hmarked⟩
    exact ⟨d.id, h.mem_annotated_iff.mpr ⟨d, hd, rfl, hmarked⟩, d, hw.get?_id hd, f, hf, rfl, rfl⟩

/-- Functions picked by what they declare are picked among all that carry the annotation. -/
theorem Lists.filterMap_functionsAnnotated (h : Lists s es)
    (picks : Declaration → FunctionShape → Prop) [∀ d f, Decidable (picks d f)] :
    ((s.functionsAnnotated name).filterMap fun (d, f) =>
        if picks d f then some d.id else none) =
      (s.annotated name).filter fun i =>
        (s.get? i).any fun d => d.function?.any fun f => picks d f := by
  unfold functionsAnnotated
  rw [List.filterMap_filterMap, ← List.filterMap_eq_filter]
  refine List.filterMap_congr fun i hi => ?_
  obtain ⟨d, hd, rfl, -⟩ := h.mem_annotated_iff.mp hi
  rcases hf : d.function? with _ | f
  · simp [h.wellNumbered.get?_id hd, hf, Option.guard]
  · simp [h.wellNumbered.get?_id hd, hf, Option.guard]

/-- A function that is picked is picked as often as it carries the annotation. -/
theorem Lists.count_filterMap_functionsAnnotated (h : Lists s es)
    (picks : Declaration → FunctionShape → Prop) [∀ d f, Decidable (picks d f)]
    (hd : d ∈ s.declarations)
    (hmem : d.id ∈ (s.functionsAnnotated name).filterMap fun (d, f) =>
      if picks d f then some d.id else none) :
    ((s.functionsAnnotated name).filterMap fun (d, f) =>
      if picks d f then some d.id else none).count d.id = d.timesMarked name := by
  rw [h.filterMap_functionsAnnotated] at hmem ⊢
  refine (List.count_filter ?_).trans (h.count_annotated hd)
  exact (List.mem_filter.mp hmem).2

/-- The functions that carry an annotation are in the order of the source. -/
theorem Lists.pairwise_functionsAnnotated (h : Lists s es) :
    (s.functionsAnnotated name).Pairwise fun a b => s.NoLater a.1.id b.1.id := by
  refine (h.noLater_annotated name).filterMap _ ?_
  intro i j hij a ha b hb
  simp only [Option.bind_eq_bind, Option.bind_eq_some_iff, Option.pure_def,
    Option.some.injEq] at ha hb
  obtain ⟨d, hd, f, -, rfl⟩ := ha
  obtain ⟨d', hd', f', -, rfl⟩ := hb
  rw [h.wellNumbered.id_eq hd, h.wellNumbered.id_eq hd']
  exact hij

/-- What is made of these functions one by one is in the order of the source too. -/
theorem Lists.pairwise_filterMap_functionsAnnotated (h : Lists s es) {α : Type}
    {make : Declaration × FunctionShape → Option α} (idOf : α → DeclId)
    (hid : ∀ d f a, make (d, f) = some a → idOf a = d.id) :
    ((s.functionsAnnotated name).filterMap make).Pairwise
      fun a b => s.NoLater (idOf a) (idOf b) := by
  refine h.pairwise_functionsAnnotated.filterMap make ?_
  rintro ⟨d, f⟩ ⟨d', f'⟩ hdd' a ha b hb
  rw [hid d f a ha, hid d' f' b hb]
  exact hdd'

end Snapshot

end BoundaryGen
