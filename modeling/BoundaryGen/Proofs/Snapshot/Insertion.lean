-- One more file among others: its declarations are inserted in one piece, and the others stand
-- under the same numbers or under shifted ones. What refers to them is shifted along.
import Mathlib
import BoundaryGen.Proofs.Snapshot.Annotated
import BoundaryGen.Proofs.Snapshot.Numbering

namespace BoundaryGen

/-! ## One more element of a sorted list -/

section Sorting

variable {α : Type} {le : α → α → Bool}
  (trans : ∀ a b c, le a b = true → le b c = true → le a c = true)
  (total : ∀ a b, (le a b || le b a) = true)
include trans total

/-- A first element goes behind what is less, in front of all else. -/
theorem mergeSort_cons_eq (a : α) (l : List α) :
    (a :: l).mergeSort le =
      (l.mergeSort le).filter (!le a ·) ++ a :: (l.mergeSort le).filter (le a ·) := by
  obtain ⟨l₁, l₂, hsorted, hrest, hless⟩ := List.mergeSort_cons trans total a l
  have hpairwise := List.pairwise_mergeSort trans total (a :: l)
  rw [hsorted, List.pairwise_append, List.pairwise_cons] at hpairwise
  have hle : ∀ b ∈ l₂, le a b = true := hpairwise.2.1.1
  have hfirst : l₁.filter (!le a ·) = l₁ ∧ l₁.filter (le a ·) = [] :=
    ⟨List.filter_eq_self.mpr hless,
      List.filter_eq_nil_iff.mpr fun b hb => by simpa using hless b hb⟩
  have hsecond : l₂.filter (!le a ·) = [] ∧ l₂.filter (le a ·) = l₂ :=
    ⟨List.filter_eq_nil_iff.mpr fun b hb => by simpa using hle b hb,
      List.filter_eq_self.mpr hle⟩
  rw [hsorted, hrest, List.filter_append, List.filter_append, hfirst.1, hfirst.2, hsecond.1,
    hsecond.2, List.append_nil, List.nil_append]

/-- One more element, wherever it stands, leaves the order of the others as it is. -/
theorem exists_mergeSort_insert (before after : List α) (a : α) :
    ∃ l l', (before ++ a :: after).mergeSort le = l ++ a :: l' ∧
      (before ++ after).mergeSort le = l ++ l' := by
  induction before with
  | nil =>
    obtain ⟨l, l', hsorted, hrest, -⟩ := List.mergeSort_cons trans total a after
    exact ⟨l, l', hsorted, hrest⟩
  | cons b before ih =>
    obtain ⟨l, l', hsorted, hrest⟩ := ih
    rw [List.cons_append, List.cons_append, mergeSort_cons_eq trans total,
      mergeSort_cons_eq trans total, hsorted, hrest]
    simp only [List.filter_append, List.filter_cons]
    by_cases hle : le b a = true
    · refine ⟨l.filter (!le b ·) ++ l'.filter (!le b ·) ++ b :: l.filter (le b ·),
        l'.filter (le b ·), ?_, ?_⟩ <;> simp [hle]
    · refine ⟨l.filter (!le b ·), l'.filter (!le b ·) ++ b :: (l.filter (le b ·) ++
        l'.filter (le b ·)), ?_, ?_⟩ <;> simp [hle]

end Sorting

namespace Snapshot

/-! ## Numbers around a gap -/

/-- The numbers from `n` on make room for `k` more. -/
def skipGap (n k i : Nat) : Nat := if i < n then i else i + k

/-- Whether a number is one of the `k` numbers from `n` on. -/
def inGap (n k i : Nat) : Bool := n ≤ i ∧ i < n + k

section Gap

variable {n k i j : Nat}

theorem skipGap_of_lt (h : i < n) : skipGap n k i = i := if_pos h

theorem skipGap_of_le (h : n ≤ i) : skipGap n k i = i + k := if_neg (Nat.not_lt.mpr h)

theorem skipGap_strictMono (n k : Nat) : StrictMono (skipGap n k) := by
  intro i j hij
  unfold skipGap
  split <;> split <;> omega

theorem inGap_skipGap (n k i : Nat) : inGap n k (skipGap n k i) = false := by
  unfold inGap skipGap
  split <;> simp <;> omega

/-- Every number outside the gap belongs to an old one. -/
theorem exists_skipGap_eq (h : inGap n k j = false) : ∃ i, skipGap n k i = j := by
  simp only [inGap, decide_eq_false_iff_not] at h
  by_cases hj : j < n
  · exact ⟨j, skipGap_of_lt hj⟩
  · exact ⟨j - k, by rw [skipGap_of_le (by omega)]; omega⟩

end Gap

/-! ## Snapshots with a gap -/

/-- The declarations of one snapshot are those of another one, with some more between them. -/
structure Inserted (s s' : Snapshot) (first middle last : List Declaration) : Prop where
  declarations : s.declarations.toList = first ++ last
  declarations' : s'.declarations.toList =
    first ++ middle ++ last.map (·.renumber (· + middle.length))
  wellNumbered : WellNumbered s
  middle_parent : ∀ d ∈ middle, ∀ {p}, d.parent = some p → first.length ≤ p
  last_parent : ∀ d ∈ last, ∀ {p}, d.parent = some p → first.length ≤ p

theorem get?_toList (s : Snapshot) (i : DeclId) : s.get? i = s.declarations.toList[i]? := by
  rw [get?, Array.getElem?_toList]

variable {s s' : Snapshot}

/-- One more file inserts its declarations between those of the others. -/
theorem exists_inserted {before after : List SourceFile} {file : SourceFile}
    (h : ofFiles (before ++ after) = .ok s) (h' : ofFiles (before ++ file :: after) = .ok s') :
    ∃ files files', s.entries = listing files ++ listing files' ∧
      s'.entries = listing files ++ file.entries ++ listing files' ∧
      ∃ first middle last, Inserted s s' first middle last ∧
        first.length = (listing files).length ∧ middle.length = file.entries.length := by
  have trans : ∀ a b c : SourceFile, decide (a.path ≤ b.path) = true →
      decide (b.path ≤ c.path) = true → decide (a.path ≤ c.path) = true := by
    simp only [decide_eq_true_eq]
    exact fun a b c => le_trans
  have total : ∀ a b : SourceFile,
      (decide (a.path ≤ b.path) || decide (b.path ≤ a.path)) = true := by
    simp only [Bool.or_eq_true, decide_eq_true_eq]
    exact fun a b => le_total a.path b.path
  obtain ⟨files, files', hsorted', hsorted⟩ := exists_mergeSort_insert trans total before after file
  have hdeclarations := declarations_ofFiles h
  have hdeclarations' := declarations_ofFiles h'
  have hlists := lists_ofFiles h
  have hlists' := lists_ofFiles h'
  rw [hsorted, numberedFiles_append, Nat.zero_add] at hdeclarations
  rw [hsorted', numberedFiles_append, Nat.zero_add, numberedFiles, numberedFiles_shift,
    ← List.append_assoc] at hdeclarations'
  rw [hsorted] at hlists
  rw [hsorted'] at hlists'
  refine ⟨files, files', ?_, ?_, _, _, _,
    ⟨hdeclarations, hdeclarations', hlists.wellNumbered, ?_, ?_⟩, ?_, ?_⟩
  · rw [hlists.entries, listing, List.flatMap_append]
    rfl
  · rw [hlists'.entries, listing, List.flatMap_append, List.flatMap_cons, ← List.append_assoc]
    rfl
  · intro d hd p hp
    exact (parent_numberedAll file.declarations hd hp).resolve_left (Option.not_mem_none p)
  · intro d hd p hp
    exact le_of_parent_numberedFiles hd hp
  · exact length_numberedFiles files
  · exact length_numberedAll file.declarations

theorem renumber_congr {ρ σ : DeclId → DeclId} {d : Declaration} (hid : ρ d.id = σ d.id)
    (hparent : ∀ {p}, d.parent = some p → ρ p = σ p) : d.renumber ρ = d.renumber σ := by
  unfold Declaration.renumber
  rw [hid]
  congr 1
  cases hp : d.parent with
  | none => rfl
  | some p => exact congrArg some (hparent hp)

theorem renumber_id (d : Declaration) : d.renumber id = d := by
  unfold Declaration.renumber
  rw [Option.map_id]
  rfl

/-- A declaration in the gap is one of the entries there. -/
theorem entry_mem_of_inGap {pre es post : List SourceEntry} (h : s.entries = pre ++ es ++ post)
    {i : DeclId} (hi : inGap pre.length es.length i = true) {d : Declaration}
    (hd : s.get? i = some d) : d.entry s.place? ∈ es := by
  simp only [inGap, decide_eq_true_eq] at hi
  have hentry := getElem?_entries s i
  rw [hd, h, List.append_assoc, List.getElem?_append_right hi.1,
    List.getElem?_append_left (by omega)] at hentry
  exact List.mem_of_getElem? hentry

theorem map_marks (d : Declaration) (name : String) (ρ : DeclId → DeclId) :
    (d.marks name).map ρ = (d.annotations.filter (·.name = name)).map fun _ => ρ d.id :=
  List.map_map

theorem filter_marks (d : Declaration) (name : String) (p : DeclId → Bool) :
    (d.marks name).filter p = if p d.id then d.marks name else [] := by
  unfold Declaration.marks
  rw [List.filter_map]
  split
  · rename_i hp
    exact congrArg _ (List.filter_eq_self.mpr fun _ _ => hp)
  · rename_i hp
    rw [List.map_eq_nil_iff]
    exact List.filter_eq_nil_iff.mpr fun _ _ => hp

namespace Inserted

variable {first middle last : List Declaration} (h : Inserted s s' first middle last)
include h

/-! ## Declarations around the gap -/

theorem get?_of_lt {i : DeclId} (hi : i < first.length) :
    s.get? i = first[i]? ∧ s'.get? i = first[i]? := by
  rw [get?_toList, get?_toList, h.declarations, h.declarations', List.append_assoc,
    List.getElem?_append_left hi, List.getElem?_append_left hi]
  exact ⟨rfl, rfl⟩

theorem get?_of_le {i : DeclId} (hi : first.length ≤ i) :
    s.get? i = last[i - first.length]? ∧
      s'.get? (i + middle.length) =
        last[i - first.length]?.map (·.renumber (· + middle.length)) := by
  have hle : (first ++ middle).length ≤ i + middle.length := by
    rw [List.length_append]
    exact Nat.add_le_add_right hi _
  have hplace : i + middle.length - (first ++ middle).length = i - first.length := by
    rw [List.length_append]
    exact Nat.add_sub_add_right i middle.length first.length
  rw [get?_toList, get?_toList, h.declarations, h.declarations', List.getElem?_append_right hi,
    List.getElem?_append_right hle, hplace, List.getElem?_map]
  exact ⟨rfl, rfl⟩

/-- An old declaration stands under its shifted number. -/
theorem get?_skipGap (i : DeclId) :
    s'.get? (skipGap first.length middle.length i) =
      (s.get? i).map (·.renumber (skipGap first.length middle.length)) := by
  by_cases hi : i < first.length
  · obtain ⟨hs, hs'⟩ := h.get?_of_lt hi
    rw [skipGap_of_lt hi, hs', ← hs]
    cases hd : s.get? i with
    | none => rfl
    | some d =>
      have hid := h.wellNumbered.id_eq hd
      refine congrArg some ((renumber_id d).symm.trans (renumber_congr ?_ ?_))
      · rw [hid, skipGap_of_lt hi]
        rfl
      · intro p hp
        exact (skipGap_of_lt (Nat.lt_trans (h.wellNumbered.parent hd hp).1 hi)).symm
  · have hi := Nat.not_lt.mp hi
    obtain ⟨hs, hs'⟩ := h.get?_of_le hi
    rw [skipGap_of_le hi, hs', ← hs]
    cases hd : s.get? i with
    | none => rfl
    | some d =>
      have hid := h.wellNumbered.id_eq hd
      have hmem : d ∈ last := List.mem_of_getElem? (hs.symm.trans hd)
      refine congrArg some (renumber_congr ?_ ?_)
      · rw [hid, skipGap_of_le hi]
      · intro p hp
        exact (skipGap_of_le (h.last_parent d hmem hp)).symm

/-- A new declaration stands in the gap. -/
theorem mem_middle {j : DeclId} (hj : inGap first.length middle.length j = true) {d : Declaration}
    (hd : s'.get? j = some d) : d ∈ middle := by
  simp only [inGap, decide_eq_true_eq] at hj
  rw [get?_toList, h.declarations', List.append_assoc, List.getElem?_append_right hj.1,
    List.getElem?_append_left (by omega)] at hd
  exact List.mem_of_getElem? hd

/-- New declarations stand in new classes only, and old declarations in old ones. -/
theorem inGap_parent (hw' : WellNumbered s') {j p : DeclId} {d : Declaration}
    (hd : s'.get? j = some d) (hp : d.parent = some p) :
    inGap first.length middle.length p = inGap first.length middle.length j := by
  cases hj : inGap first.length middle.length j with
  | true =>
    have hle := h.middle_parent d (h.mem_middle hj hd) hp
    have hlt := (hw'.parent hd hp).1
    simp only [inGap, decide_eq_true_eq] at hj ⊢
    exact ⟨hle, Nat.lt_trans hlt hj.2⟩
  | false =>
    obtain ⟨i, rfl⟩ := exists_skipGap_eq hj
    rw [h.get?_skipGap, Option.map_eq_some_iff] at hd
    obtain ⟨d, -, rfl⟩ := hd
    rw [Declaration.renumber_parent, Option.map_eq_some_iff] at hp
    obtain ⟨p, -, rfl⟩ := hp
    exact inGap_skipGap _ _ p

theorem placeOf_skipGap (i : DeclId) :
    s'.placeOf (skipGap first.length middle.length i) = s.placeOf i := by
  rw [placeOf, placeOf, place?, place?, h.get?_skipGap]
  cases s.get? i <;> rfl

theorem notBehind_skipGap (i j : DeclId) :
    s'.notBehind (skipGap first.length middle.length i) (skipGap first.length middle.length j) =
      s.notBehind i j := by
  have hnumbers : compare (skipGap first.length middle.length i)
      (skipGap first.length middle.length j) = compare i j := by
    rw [← cmp_eq_compare, ← cmp_eq_compare]
    exact (skipGap_strictMono _ _).cmp_map_eq i j
  unfold notBehind sourceCompare
  simp only [compareLex, compareOn, h.placeOf_skipGap, id, hnumbers]

/-! ## Annotations -/

theorem id_lt_of_mem_first {d : Declaration} (hd : d ∈ first) : d.id < first.length := by
  obtain ⟨i, hi⟩ := List.mem_iff_getElem?.mp hd
  have hlt : i < first.length := (List.getElem?_eq_some_iff.mp hi).1
  rw [h.wellNumbered.id_eq ((h.get?_of_lt hlt).1.trans hi)]
  exact hlt

theorem le_id_of_mem_last {d : Declaration} (hd : d ∈ last) : first.length ≤ d.id := by
  obtain ⟨i, hi⟩ := List.mem_iff_getElem?.mp hd
  have hget := (h.get?_of_le (Nat.le_add_right first.length i)).1
  rw [Nat.add_sub_cancel_left, hi] at hget
  rw [h.wellNumbered.id_eq hget]
  exact Nat.le_add_right _ _

theorem get?_of_mem_middle (hw' : WellNumbered s') {d : Declaration} (hd : d ∈ middle) :
    inGap first.length middle.length d.id = true ∧ s'.get? d.id = some d := by
  obtain ⟨i, hi⟩ := List.mem_iff_getElem?.mp hd
  have hlt : i < middle.length := (List.getElem?_eq_some_iff.mp hi).1
  have hget : s'.get? (first.length + i) = some d := by
    rw [get?_toList, h.declarations', List.append_assoc,
      List.getElem?_append_right (Nat.le_add_right _ _), Nat.add_sub_cancel_left,
      List.getElem?_append_left hlt, hi]
  rw [hw'.id_eq hget]
  refine ⟨?_, hget⟩
  simp only [inGap, decide_eq_true_eq]
  omega

theorem filter_carriers (hw' : WellNumbered s') (name : String) :
    (s'.carriers name).filter (!inGap first.length middle.length ·) =
      (s.carriers name).map (skipGap first.length middle.length) := by
  have hfirst : ∀ d ∈ first, (d.marks name).filter (!inGap first.length middle.length ·) =
      (d.marks name).map (skipGap first.length middle.length) := by
    intro d hd
    have hid := skipGap_of_lt (k := middle.length) (h.id_lt_of_mem_first hd)
    have hout := inGap_skipGap first.length middle.length d.id
    rw [hid] at hout
    rw [filter_marks, hout, Bool.not_false, if_pos rfl, map_marks, hid]
    rfl
  have hmiddle : ∀ d ∈ middle,
      (d.marks name).filter (!inGap first.length middle.length ·) = [] := by
    intro d hd
    rw [filter_marks, (h.get?_of_mem_middle hw' hd).1, Bool.not_true, if_neg Bool.false_ne_true]
  have hlast : ∀ d ∈ last, ((d.renumber (· + middle.length)).marks name).filter
      (!inGap first.length middle.length ·) =
        (d.marks name).map (skipGap first.length middle.length) := by
    intro d hd
    have hid := skipGap_of_le (k := middle.length) (h.le_id_of_mem_last hd)
    have hout := inGap_skipGap first.length middle.length d.id
    rw [hid] at hout
    rw [filter_marks, Declaration.renumber_id, hout, Bool.not_false, if_pos rfl, map_marks, hid]
    rfl
  unfold carriers
  rw [h.declarations, h.declarations', List.flatMap_append, List.flatMap_append,
    List.flatMap_append, List.filter_append, List.filter_append, List.filter_flatMap,
    List.filter_flatMap, List.filter_flatMap, List.flatMap_map, List.map_append, List.map_flatMap,
    List.map_flatMap, List.flatMap_congr hfirst, List.flatMap_congr hmiddle,
    List.flatMap_congr hlast]
  simp

/-- The old declarations that carry an annotation keep their order. -/
theorem filter_annotated {es es' : List SourceEntry} (hs : Lists s es) (hs' : Lists s' es')
    (name : String) :
    (s'.annotated name).filter (!inGap first.length middle.length ·) =
      (s.annotated name).map (skipGap first.length middle.length) := by
  apply eq_of_perm_of_notBehind (s := s')
  · refine ((hs'.perm_annotated name).filter _).trans ?_
    rw [h.filter_carriers hs'.wellNumbered]
    exact ((hs.perm_annotated name).map _).symm
  · exact (hs'.pairwise_annotated name).filter _
  · rw [List.pairwise_map]
    simp only [h.notBehind_skipGap]
    exact hs.pairwise_annotated name

/-! ## Classes -/

theorem reverse_declarations' : s'.declarations.toList.reverse =
    last.reverse.map (·.renumber (· + middle.length)) ++ (middle.reverse ++ first.reverse) := by
  rw [h.declarations', List.reverse_append, List.reverse_append, List.map_reverse]

/-- A name that no new class has means what it meant before. -/
theorem findClass_skipGap (hw' : WellNumbered s') {name : String}
    (hname : ∀ d ∈ middle, d.isClassNamed name = false) :
    s'.findClass name = (s.findClass name).map (skipGap first.length middle.length) := by
  have hnone : middle.reverse.find? (·.isClassNamed name) = none := by
    rw [List.find?_eq_none]
    intro d hd
    rw [hname d (List.mem_reverse.mp hd)]
    exact Bool.false_ne_true
  rw [h.wellNumbered.findClass, hw'.findClass, h.reverse_declarations',
    h.declarations, List.reverse_append, List.find?_append, List.find?_append, List.find?_append,
    hnone, Option.none_or, List.find?_map]
  have hsame : (fun d : Declaration => d.isClassNamed name) ∘
      (·.renumber (· + middle.length)) = fun d : Declaration => d.isClassNamed name := rfl
  rw [hsame]
  cases hlast : last.reverse.find? (·.isClassNamed name) with
  | some d =>
    have hmem := List.mem_reverse.mp (List.mem_of_find?_eq_some hlast)
    exact congrArg some (skipGap_of_le (h.le_id_of_mem_last hmem)).symm
  | none =>
    rw [Option.map_none, Option.none_or]
    cases hfirst : first.reverse.find? (·.isClassNamed name) with
    | none => rfl
    | some d =>
      have hmem := List.mem_reverse.mp (List.mem_of_find?_eq_some hfirst)
      exact congrArg some (skipGap_of_lt (h.id_lt_of_mem_first hmem)).symm

end Inserted

end Snapshot

end BoundaryGen
