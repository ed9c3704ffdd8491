-- Assignability is reachability: the search through the super types of classes finds its target
-- exactly when some steps from a name to the names of super types lead there.
import Mathlib
import BoundaryGen.Proofs.Snapshot.Listing

namespace BoundaryGen

/-- The number of super types that a declaration names. -/
def Declaration.superTypeCount (d : Declaration) : Nat :=
  (d.class?.map (·.superTypes.length)).getD 0

namespace Snapshot

variable {s : Snapshot} {target : String} {seen waiting : List String} {fuel : Nat}

/-! ## Steps to super types -/

/-- Some steps lead from one name to another, each from the name of a class to the name of one of
its super types. -/
def LeadsTo (s : Snapshot) : String → String → Prop :=
  Relation.ReflTransGen fun name super => super ∈ s.superNames name

/-- A search finds only what some waiting name leads to. -/
theorem exists_of_reaches (h : s.reaches target fuel seen waiting) :
    ∃ name ∈ waiting, s.LeadsTo name target := by
  induction fuel generalizing seen waiting with
  | zero => simp [reaches] at h
  | succ fuel ih =>
    rcases waiting with _ | ⟨name, rest⟩
    · simp [reaches] at h
    · rw [reaches] at h
      split at h
      · rename_i heq
        exact ⟨name, List.mem_cons_self, heq ▸ .refl⟩
      · split at h
        · obtain ⟨other, hmem, hleads⟩ := ih h
          exact ⟨other, List.mem_cons_of_mem name hmem, hleads⟩
        · obtain ⟨other, hmem, hleads⟩ := ih h
          rcases List.mem_append.mp hmem with hmem | hmem
          · exact ⟨name, List.mem_cons_self, .head (List.mem_reverse.mp hmem) hleads⟩
          · exact ⟨other, List.mem_cons_of_mem name hmem, hleads⟩

/-! ## The state of a search -/

/-- The state of a search that has not met its target: a super type of a seen name is seen or
waits. -/
structure Searching (s : Snapshot) (target : String) (seen waiting : List String) : Prop where
  missed : target ∉ seen
  frontier : ∀ name ∈ seen, ∀ super ∈ s.superNames name, super ∈ seen ∨ super ∈ waiting

namespace Searching

variable {name : String} {rest : List String}

theorem skip (h : Searching s target seen (name :: rest)) (hseen : name ∈ seen) :
    Searching s target seen rest where
  missed := h.missed
  frontier other hmem super hsuper := by
    rcases h.frontier other hmem super hsuper with hs | hs
    · exact Or.inl hs
    · rcases List.mem_cons.mp hs with rfl | hs
      · exact Or.inl hseen
      · exact Or.inr hs

theorem visit (h : Searching s target seen (name :: rest)) (hne : name ≠ target) :
    Searching s target (name :: seen) ((s.superNames name).reverse ++ rest) where
  missed := by
    rw [List.mem_cons, not_or]
    exact ⟨Ne.symm hne, h.missed⟩
  frontier other hmem super hsuper := by
    rcases List.mem_cons.mp hmem with rfl | hmem
    · exact Or.inr (List.mem_append_left rest (List.mem_reverse.mpr hsuper))
    · rcases h.frontier other hmem super hsuper with hs | hs
      · exact Or.inl (List.mem_cons_of_mem name hs)
      · rcases List.mem_cons.mp hs with rfl | hs
        · exact Or.inl List.mem_cons_self
        · exact Or.inr (List.mem_append_right _ hs)

/-- When nothing waits any more, no seen name leads to the target. -/
theorem not_leadsTo (h : Searching s target seen []) (hseen : name ∈ seen) :
    ¬ s.LeadsTo name target := by
  intro hleads
  have hclosed : ∀ {other}, s.LeadsTo name other → other ∈ seen := by
    intro other hother
    induction hother with
    | refl => exact hseen
    | tail _ hstep ih => exact (h.frontier _ ih _ hstep).resolve_right (List.not_mem_nil)
  exact h.missed (hclosed hleads)

end Searching

/-! ## The length of a search -/

/-- The number of super types of the classes that were not seen. -/
def unseenCount (s : Snapshot) (seen : List String) : Nat :=
  (s.declarations.toList.map fun d =>
    if d.qualifiedName ∈ seen then 0 else d.superTypeCount).sum

theorem unseenCount_nil (s : Snapshot) : s.unseenCount [] = s.superTypeCount := by
  unfold unseenCount superTypeCount
  simp only [List.not_mem_nil, if_false]
  rfl

theorem sum_map_add_le {α : Type} {f g : α → Nat} {l : List α} (h : ∀ a ∈ l, g a ≤ f a) {a : α}
    (ha : a ∈ l) {n : Nat} (hn : g a + n ≤ f a) : (l.map g).sum + n ≤ (l.map f).sum := by
  induction l with
  | nil => cases ha
  | cons b l ih =>
    rw [List.map_cons, List.map_cons, List.sum_cons, List.sum_cons]
    have hb := h b List.mem_cons_self
    have hl := List.sum_le_sum fun c hc => h c (List.mem_cons_of_mem b hc)
    rcases List.mem_cons.mp ha with rfl | ha
    · omega
    · have hrest := ih (fun c hc => h c (List.mem_cons_of_mem b hc)) ha
      omega

/-- A class that a name means is a declaration under that name. -/
theorem WellNumbered.of_classNamed (hw : WellNumbered s) {name : String} {d : Declaration}
    {shape : ClassShape} (h : s.classNamed name = some (d, shape)) :
    ∃ i, s.findClass name = some i ∧ s.get? i = some d ∧ d.class? = some shape ∧
      d.qualifiedName = name := by
  unfold classNamed at h
  simp only [Option.bind_eq_bind, Option.bind_eq_some_iff] at h
  obtain ⟨i, hfind, d', hget, shape', hshape, hpair⟩ := h
  cases hpair
  obtain ⟨d', hd', hname⟩ := hw.of_findClass hfind
  rw [hget] at hd'
  cases hd'
  exact ⟨i, hfind, hget, hshape, (Declaration.isClassNamed_iff.mp hname).2⟩

/-- What waits instead of a name is no more than what its class counted for. -/
theorem unseenCount_visit (hw : WellNumbered s) {name : String} (hname : name ∉ seen) :
    s.unseenCount (name :: seen) + (s.superNames name).length ≤ s.unseenCount seen := by
  have hle : ∀ d ∈ s.declarations.toList,
      (if d.qualifiedName ∈ name :: seen then 0 else d.superTypeCount) ≤
        if d.qualifiedName ∈ seen then 0 else d.superTypeCount := by
    intro d _
    by_cases hd : d.qualifiedName ∈ seen
    · rw [if_pos hd, if_pos (List.mem_cons_of_mem name hd)]
    · rw [if_neg hd]
      split <;> omega
  rcases hclass : s.classNamed name with _ | ⟨d, shape⟩
  · have hnone : s.superNames name = [] := by rw [superNames, hclass]
    rw [hnone, List.length_nil, Nat.add_zero]
    exact List.sum_le_sum hle
  · obtain ⟨i, -, hget, hshape, hqualified⟩ := hw.of_classNamed hclass
    have hsupers : (s.superNames name).length = d.superTypeCount := by
      rw [superNames, hclass, List.length_map, Declaration.superTypeCount, hshape]
      rfl
    have hmem : d ∈ s.declarations.toList :=
      List.mem_of_getElem? (i := i) (by rw [Array.getElem?_toList]; exact hget)
    refine sum_map_add_le hle hmem ?_
    rw [hqualified, if_pos List.mem_cons_self, if_neg hname, hsupers, Nat.zero_add]

/-! ## The law of assignability -/

/-- A search with enough fuel that finds nothing has missed nothing. -/
theorem reaches_of_leadsTo (hw : WellNumbered s) (h : Searching s target seen waiting)
    (hfuel : waiting.length + s.unseenCount seen < fuel) {name : String}
    (hname : name ∈ seen ∨ name ∈ waiting) (hleads : s.LeadsTo name target) :
    s.reaches target fuel seen waiting := by
  induction fuel generalizing seen waiting with
  | zero => omega
  | succ fuel ih =>
    rcases waiting with _ | ⟨first, rest⟩
    · exact absurd hleads (h.not_leadsTo (hname.resolve_right List.not_mem_nil))
    · rw [List.length_cons] at hfuel
      rw [reaches]
      by_cases hfound : first = target
      · rw [if_pos hfound]
      · rw [if_neg hfound]
        by_cases hseen : first ∈ seen
        · rw [if_pos hseen]
          refine ih (h.skip hseen) (by omega) ?_
          rcases hname with hname | hname
          · exact Or.inl hname
          · rcases List.mem_cons.mp hname with rfl | hname
            · exact Or.inl hseen
            · exact Or.inr hname
        · rw [if_neg hseen]
          have hcount := unseenCount_visit hw hseen
          refine ih (h.visit hfound) ?_ ?_
          · rw [List.length_append, List.length_reverse]
            omega
          · rcases hname with hname | hname
            · exact Or.inl (List.mem_cons_of_mem first hname)
            · rcases List.mem_cons.mp hname with rfl | hname
              · exact Or.inl List.mem_cons_self
              · exact Or.inr (List.mem_append_right _ hname)

/-- A type serves as another exactly when it is not nullable and its name leads to the other. -/
theorem WellNumbered.isAssignable_iff (hw : WellNumbered s) {candidate : TypeRef} :
    s.isAssignable target candidate ↔
      candidate.nullable = false ∧ s.LeadsTo candidate.name target := by
  have hstart : Searching s target [] [candidate.name] :=
    ⟨List.not_mem_nil, fun _ hname => by cases hname⟩
  rw [isAssignable, Bool.and_eq_true, Bool.not_eq_true']
  refine and_congr_right fun _ => ⟨?_, ?_⟩
  · intro h
    obtain ⟨name, hname, hleads⟩ := exists_of_reaches h
    rw [List.mem_singleton.mp hname] at hleads
    exact hleads
  · intro hleads
    refine reaches_of_leadsTo hw hstart ?_ (Or.inr List.mem_cons_self) hleads
    rw [List.length_singleton, unseenCount_nil]
    omega

end Snapshot

end BoundaryGen
