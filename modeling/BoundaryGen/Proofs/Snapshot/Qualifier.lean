-- How a snapshot writes names in type texts: a name that can stand in a text
-- is written as one, whatever classes lie around the class that it means.
import Mathlib
import BoundaryGen.Proofs.Snapshot.Listing
import BoundaryGen.Proofs.TypeRef.Rendering

namespace BoundaryGen.Snapshot

open Text (isNameChar)
open TypeRef (isTypeName KeepsNames)

variable {s : Snapshot}

/-! ## Names around a name -/

/-- All characters of a name may stand in a text. -/
def InText (name : String) : Prop := ∀ c ∈ name.toList, isNameChar c = true

theorem inText_of_qualify {scope name : String} (h : InText (qualify scope name)) :
    InText scope ∧ InText name := by
  unfold qualify at h
  split at h
  · rename_i hempty
    refine ⟨fun c hc => ?_, h⟩
    rw [String.isEmpty_iff.mp hempty] at hc
    cases hc
  · refine ⟨fun c hc => h c ?_, fun c hc => h c ?_⟩ <;> simp [hc]

theorem inText_nested {outer name : String} (ho : InText outer) (hn : InText name) :
    InText (outer ++ "$" ++ name) := by
  intro c hc
  simp only [String.toList_append, List.mem_append] at hc
  rcases hc with (hc | hc) | hc
  · exact ho c hc
  · rw [List.mem_singleton.mp hc]
    decide
  · exact hn c hc

theorem WellNumbered.of_parent? (hw : WellNumbered s) {i : DeclId} {d parent : Declaration}
    (hd : s.get? i = some d) (hp : s.parent? i = some parent) :
    d.qualifiedName = qualify parent.qualifiedName d.simpleName := by
  unfold parent? at hp
  simp only [hd, Option.bind_eq_bind, Option.bind_some, Option.bind_eq_some_iff] at hp
  obtain ⟨p, hparent, hget⟩ := hp
  obtain ⟨-, c, hc, -, hname⟩ := hw.parent hd hparent
  rw [hget] at hc
  cases hc
  exact hname

/-! ## Written names -/

theorem inText_qualifierWithin (hw : WellNumbered s) (depth : Nat) {name : String}
    (h : InText name) : InText (s.qualifierWithin depth name) := by
  induction depth generalizing name with
  | zero => exact h
  | succ depth ih =>
    rw [qualifierWithin]
    rcases hfind : s.findClass name with _ | i
    · exact h
    · obtain ⟨d, hd, hname⟩ := hw.of_findClass hfind
      obtain ⟨-, rfl⟩ := Declaration.isClassNamed_iff.mp hname
      dsimp only
      rw [hd]
      rcases hp : s.parent? i with _ | parent
      · exact h
      · dsimp only
        split
        · rw [hw.of_parent? hd hp] at h
          obtain ⟨hparent, hname⟩ := inText_of_qualify h
          exact inText_nested (ih hparent) hname
        · exact h

theorem qualifierWithin_ne_empty (hw : WellNumbered s) (depth : Nat) {name : String}
    (h : name.toList ≠ []) : (s.qualifierWithin depth name).toList ≠ [] := by
  cases depth with
  | zero => exact h
  | succ depth =>
    rw [qualifierWithin]
    rcases hfind : s.findClass name with _ | i
    · exact h
    · obtain ⟨d, hd, hname⟩ := hw.of_findClass hfind
      obtain ⟨-, rfl⟩ := Declaration.isClassNamed_iff.mp hname
      dsimp only
      rw [hd]
      rcases hp : s.parent? i with _ | parent
      · exact h
      · dsimp only
        split
        · simp
        · exact h

/-- Names are written as names. -/
theorem keepsNames_qualifier (hw : WellNumbered s) : KeepsNames s.qualifier := by
  intro name h
  simp only [isTypeName, Bool.and_eq_true, Bool.not_eq_true', List.isEmpty_eq_false_iff,
    List.all_eq_true] at h ⊢
  exact ⟨qualifierWithin_ne_empty hw _ h.1, inText_qualifierWithin hw _ h.2⟩

end BoundaryGen.Snapshot
