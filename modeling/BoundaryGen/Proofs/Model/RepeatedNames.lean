-- Names that stand more than once: the tally of some names holds each of them
-- once, in the order in which they came first, with the number of its places.
-- So the repeated names are found exactly, and what is left has distinct names.
import Mathlib
import BoundaryGen.Model.Check

namespace BoundaryGen

/-! ## Counting -/

namespace Tally

theorem add_of_not_mem {name : String} {tally : Tally} (h : name ∉ tally.map (·.1)) :
    add name tally = tally ++ [(name, 1)] := by
  induction tally with
  | nil => rfl
  | cons entry rest ih =>
    simp only [List.map_cons, List.mem_cons, not_or] at h
    rw [add, if_neg (Ne.symm h.1), ih h.2, List.cons_append]

theorem add_of_mem {name : String} {names : List String} (count : String → Nat)
    (hnodup : names.Nodup) (h : name ∈ names) :
    add name (names.map fun n => (n, count n)) =
      names.map fun n => (n, if n = name then count n + 1 else count n) := by
  induction names with
  | nil => cases h
  | cons n names ih =>
    rw [List.nodup_cons] at hnodup
    rw [List.map_cons, List.map_cons, add]
    split
    · rename_i heq
      subst heq
      refine congrArg₂ List.cons (by simp) (List.map_congr_left fun m hm => ?_)
      rw [if_neg]
      rintro rfl
      exact hnodup.1 hm
    · rename_i hne
      rw [ih hnodup.2 ((List.mem_cons.mp h).resolve_left (Ne.symm hne))]

theorem ofList_append (names : List String) (name : String) :
    ofList (names ++ [name]) = add name (ofList names) := by
  rw [ofList, List.foldl_append]
  rfl

theorem eraseDups_append_singleton (names : List String) (name : String) :
    (names ++ [name]).eraseDups =
      if name ∈ names then names.eraseDups else names.eraseDups ++ [name] := by
  rw [List.eraseDups_append]
  split <;> rename_i h <;> simp [List.removeAll, h, List.eraseDups_cons]

theorem nodup_eraseDups (names : List String) : names.eraseDups.Nodup := by
  induction names using List.reverseRecOn with
  | nil => exact List.nodup_nil
  | append_singleton names name ih =>
    rw [eraseDups_append_singleton]
    split
    · exact ih
    · rename_i h
      refine List.nodup_append.mpr ⟨ih, List.nodup_singleton name, ?_⟩
      rintro a ha b hb rfl
      rw [List.mem_singleton.mp hb, List.mem_eraseDups] at ha
      exact h ha

/-- A tally holds each name once, in the order of first use, with the number of its places. -/
theorem ofList_eq (names : List String) :
    ofList names = names.eraseDups.map fun n => (n, names.count n) := by
  induction names using List.reverseRecOn with
  | nil => rfl
  | append_singleton names name ih =>
    have hcount (n : String) : (names ++ [name]).count n =
        if n = name then names.count n + 1 else names.count n := by
      by_cases h : n = name
      · simp [h]
      · simp [h, Ne.symm h]
    rw [ofList_append, ih, eraseDups_append_singleton]
    simp only [hcount]
    split
    · rename_i h
      exact add_of_mem _ (nodup_eraseDups names) (List.mem_eraseDups.mpr h)
    · rename_i h
      have hnew : name ∉ (names.eraseDups.map fun n => (n, names.count n)).map (·.1) := by
        simpa using h
      rw [add_of_not_mem hnew, List.map_append]
      refine congrArg₂ _ (List.map_congr_left fun n hn => ?_) ?_
      · rw [if_neg]
        rintro rfl
        exact h (List.mem_eraseDups.mp hn)
      · simp [List.count_eq_zero_of_not_mem h]

/-- Names without their repetitions stand in the order of first use. -/
theorem pairwise_idxOf_eraseDups (names : List String) :
    names.eraseDups.Pairwise fun a b => names.idxOf a < names.idxOf b := by
  induction names using List.reverseRecOn with
  | nil => exact List.Pairwise.nil
  | append_singleton names name ih =>
    -- A name at the end does not change where the names before it stand first.
    have hold : ∀ a ∈ names.eraseDups, (names ++ [name]).idxOf a = names.idxOf a :=
      fun a ha => List.idxOf_append_of_mem (List.mem_eraseDups.mp ha)
    have hpairwise : names.eraseDups.Pairwise fun a b =>
        (names ++ [name]).idxOf a < (names ++ [name]).idxOf b := by
      refine ih.imp_of_mem fun {a b} ha hb hlt => ?_
      rw [hold a ha, hold b hb]
      exact hlt
    rw [eraseDups_append_singleton]
    split
    · exact hpairwise
    · rename_i hnew
      refine List.pairwise_append.mpr ⟨hpairwise, List.pairwise_singleton _ _, fun a ha b hb => ?_⟩
      rw [List.mem_singleton.mp hb, hold a ha, List.idxOf_append_of_notMem hnew]
      exact Nat.lt_add_right _ (List.idxOf_lt_length_iff.mpr (List.mem_eraseDups.mp ha))

end Tally

/-! ## Intents that share a name -/

/-- The repeated names, in the order of first use. -/
theorem repeatedNames_eq (intents : List Intent) : repeatedNames intents =
    (intents.map (·.name)).eraseDups.filter fun n => (intents.map (·.name)).count n ≠ 1 := by
  unfold repeatedNames
  rw [Tally.ofList_eq, List.filterMap_map, ← List.filterMap_eq_filter]
  refine List.filterMap_congr fun n _ => ?_
  simp only [Function.comp_apply, Option.guard, ne_eq, decide_not, Bool.not_eq_true',
    decide_eq_false_iff_not, ite_not]

theorem mem_repeatedNames_iff {intents : List Intent} {name : String} :
    name ∈ repeatedNames intents ↔ 2 ≤ (intents.map (·.name)).count name := by
  have hpos : name ∈ intents.map (·.name) ↔ 0 < (intents.map (·.name)).count name :=
    List.count_pos_iff.symm
  rw [repeatedNames_eq, List.mem_filter, List.mem_eraseDups, decide_eq_true_iff, hpos]
  omega

theorem mem_repeatedNames {intents : List Intent} {i : Intent} (h : i ∈ intents) :
    i.name ∈ repeatedNames intents ↔ (intents.map (·.name)).count i.name ≠ 1 := by
  have hpos := List.count_pos_iff.mpr (List.mem_map_of_mem (f := (·.name)) h)
  rw [mem_repeatedNames_iff]
  omega

/-- A name that stands at least twice is found once, and no other name is. -/
theorem count_repeatedNames (intents : List Intent) (name : String) :
    (repeatedNames intents).count name =
      if 2 ≤ (intents.map (·.name)).count name then 1 else 0 := by
  have hnodup : (repeatedNames intents).Nodup := by
    rw [repeatedNames_eq]
    exact (Tally.nodup_eraseDups _).filter _
  rw [hnodup.count]
  exact if_congr mem_repeatedNames_iff rfl rfl

/-- Intents in another order have the same repeated names, in some order. -/
theorem repeatedNames_perm {intents intents' : List Intent} (h : intents.Perm intents') :
    (repeatedNames intents).Perm (repeatedNames intents') := by
  rw [List.perm_iff_count]
  intro name
  rw [count_repeatedNames, count_repeatedNames, (h.map (·.name)).count_eq]

/-- The intents that get a wrapper are those whose name no other intent has. -/
theorem Model.distinctIntents_eq (m : Model) : m.distinctIntents =
    m.intents.filter fun i => (m.intents.map (·.name)).count i.name = 1 := by
  unfold Model.distinctIntents
  refine List.filter_congr fun i hi => ?_
  rw [decide_eq_decide, mem_repeatedNames hi, not_not]

theorem Model.mem_intents_of_mem_distinctIntents {m : Model} {i : Intent}
    (h : i ∈ m.distinctIntents) : i ∈ m.intents := (List.mem_filter.mp h).1

theorem Model.nodup_distinctIntents (m : Model) : (m.distinctIntents.map (·.name)).Nodup := by
  rw [List.nodup_iff_count_le_one, m.distinctIntents_eq]
  intro name
  by_cases hmem : name ∈ (m.intents.filter fun i =>
      (m.intents.map (·.name)).count i.name = 1).map (·.name)
  · obtain ⟨i, hi, rfl⟩ := List.mem_map.mp hmem
    have hone := of_decide_eq_true (List.mem_filter.mp hi).2
    exact hone ▸ (List.filter_sublist.map _).count_le _
  · rw [List.count_eq_zero_of_not_mem hmem]
    exact Nat.zero_le 1

theorem Model.distinctIntents_perm {m m' : Model} (h : m.intents.Perm m'.intents) :
    m.distinctIntents.Perm m'.distinctIntents := by
  rw [m.distinctIntents_eq, m'.distinctIntents_eq]
  simp only [(h.map (·.name)).count_eq]
  exact h.filter _

/-! ## The law of the repeated names -/

/-- Some intents told apart by their names: `repeated` are the names that stand at least twice, each
once and in the order of first use, and `distinct` are the intents whose name stands once, in their
order. -/
structure ToldApart (intents : List Intent) (repeated : List String) (distinct : List Intent) :
    Prop where
  count : ∀ name, repeated.count name = if 2 ≤ (intents.map (·.name)).count name then 1 else 0
  firstUse : repeated.Pairwise fun a b =>
    (intents.map (·.name)).idxOf a < (intents.map (·.name)).idxOf b
  eq_filter : distinct = intents.filter fun i => (intents.map (·.name)).count i.name = 1
  nodup : (distinct.map (·.name)).Nodup

/-- The repeated names of a model are found exactly, and the intents that are left when these are
filtered out are those with a name of their own. Intents in another order change the order of both
and nothing else. -/
theorem repeated_names_are_found_exactly (m : Model) :
    ToldApart m.intents (repeatedNames m.intents) m.distinctIntents ∧
      ∀ m' : Model, m'.intents.Perm m.intents →
        (repeatedNames m'.intents).Perm (repeatedNames m.intents) ∧
          m'.distinctIntents.Perm m.distinctIntents := by
  refine ⟨⟨count_repeatedNames m.intents, ?_, m.distinctIntents_eq, m.nodup_distinctIntents⟩,
    fun m' h => ⟨repeatedNames_perm h, Model.distinctIntents_perm h⟩⟩
  rw [repeatedNames_eq]
  exact (Tally.pairwise_idxOf_eraseDups _).filter _

end BoundaryGen
