-- Files in another order, with their declarations and the members of their
-- classes in another order: their snapshots differ in the numbers only.
import Mathlib
import BoundaryGen.Proofs.Snapshot.Listing
import BoundaryGen.Proofs.Snapshot.Renumbering

namespace BoundaryGen

/-! ## Other orders -/

/-- Declarations in another order, at any depth. -/
inductive Shuffled : List Node → List Node → Prop
  | nil : Shuffled [] []
  | ofClass {header : Header} {shape : ClassShape} {members members' rest rest' : List Node} :
      Shuffled members members' → Shuffled rest rest' →
      Shuffled (.ofClass header shape members :: rest) (.ofClass header shape members' :: rest')
  | ofFunction {header : Header} {shape : FunctionShape} {rest rest' : List Node} :
      Shuffled rest rest' →
      Shuffled (.ofFunction header shape :: rest) (.ofFunction header shape :: rest')
  | swap {a b : Node} {rest : List Node} : Shuffled (a :: b :: rest) (b :: a :: rest)
  | trans {l l' l'' : List Node} : Shuffled l l' → Shuffled l' l'' → Shuffled l l''

/-- Files in another order, with their declarations in another order. -/
inductive Reordered : List SourceFile → List SourceFile → Prop
  | nil : Reordered [] []
  | file {path package : String} {declarations declarations' : List Node}
      {rest rest' : List SourceFile} :
      Shuffled declarations declarations' → Reordered rest rest' →
      Reordered ({ path, package, declarations } :: rest)
        ({ path, package, declarations := declarations' } :: rest')
  | swap {a b : SourceFile} {rest : List SourceFile} : Reordered (a :: b :: rest) (b :: a :: rest)
  | trans {l l' l'' : List SourceFile} : Reordered l l' → Reordered l' l'' → Reordered l l''

mutual
theorem Shuffled.refl_cons : ∀ (node : Node) {rest : List Node}, Shuffled rest rest →
    Shuffled (node :: rest) (node :: rest)
  | .ofClass _ _ members, _, h => .ofClass (Shuffled.refl members) h
  | .ofFunction _ _, _, h => .ofFunction h
theorem Shuffled.refl : ∀ nodes : List Node, Shuffled nodes nodes
  | [] => .nil
  | node :: rest => Shuffled.refl_cons node (Shuffled.refl rest)
end

theorem Reordered.of_perm {files files' : List SourceFile} (h : files.Perm files') :
    Reordered files files' := by
  induction h with
  | nil => exact .nil
  | cons file _ ih => exact .file (Shuffled.refl _) ih
  | swap => exact .swap
  | trans _ _ ih ih' => exact .trans ih ih'

theorem Shuffled.entries {nodes nodes' : List Node} (h : Shuffled nodes nodes')
    (a : Surroundings) : (entriesOf a nodes).Perm (entriesOf a nodes') := by
  induction h generalizing a with
  | nil => exact .refl _
  | ofClass _ _ ih ih' =>
    rw [entriesOf, entriesOf, Node.entries, Node.entries]
    exact ((ih _).cons _).append (ih' a)
  | ofFunction _ ih => exact (ih a).append_left _
  | @swap node node' rest =>
    rw [entriesOf, entriesOf, entriesOf, entriesOf, ← List.append_assoc, ← List.append_assoc]
    exact List.perm_append_comm.append_right _
  | trans _ _ ih ih' => exact (ih a).trans (ih' a)

/-- Reordered files list the same declarations. -/
theorem Reordered.listing {files files' : List SourceFile} (h : Reordered files files') :
    (listing files).Perm (listing files') := by
  induction h with
  | nil => exact .refl _
  | file hd _ ih => exact (hd.entries _).append ih
  | @swap file file' rest => exact (List.Perm.swap _ _ _).flatMap_right _
  | trans _ _ ih ih' => exact ih.trans ih'

namespace Snapshot

/-! ## The order of places -/

namespace Location

theorem compare_eq : Location.compare = compareLex (compareOn BoundaryGen.Location.file)
    (compareLex (compareOn fun l => l.line.toNat) (compareOn fun l => l.column.toNat)) := rfl

instance : Std.TransCmp Location.compare := by
  rw [compare_eq]
  infer_instance

theorem eq_of_compare {a b : Location} (h : Location.compare a b = .eq) : a = b := by
  obtain ⟨file, line, column⟩ := a
  obtain ⟨file', line', column'⟩ := b
  simp only [Location.compare, Ordering.then_eq_eq, Std.compare_eq_iff_eq] at h
  obtain ⟨rfl, hl, hc⟩ := h
  rw [UInt32.toNat_inj.mp hl, UInt32.toNat_inj.mp hc]

/-- Whether a place stands no later than another one. -/
def isLE (a b : Location) : Bool := (Location.compare a b).isLE

theorem isLE_total (a b : Location) : isLE a b || isLE b a := by
  have hswap : Location.compare a b = (Location.compare b a).swap := Std.OrientedCmp.eq_swap
  rw [isLE, isLE, hswap]
  cases Location.compare b a <;> rfl

theorem pairwise_mergeSort (l : List Location) : (l.mergeSort isLE).Pairwise (isLE · ·) :=
  List.pairwise_mergeSort (fun _ _ _ => Std.TransCmp.isLE_trans) isLE_total l

theorem eq_of_isLE {a b : Location} (h : isLE a b) (h' : isLE b a) : a = b :=
  eq_of_compare (Std.OrientedCmp.isLE_antisymm h h')

theorem mergeSort_congr {l l' : List Location} (h : l.Perm l') :
    l.mergeSort isLE = l'.mergeSort isLE := by
  refine List.Perm.eq_of_pairwise (fun a b _ _ => eq_of_isLE) (pairwise_mergeSort l)
    (pairwise_mergeSort l') ?_
  exact (List.mergeSort_perm l _).trans (h.trans (List.mergeSort_perm l' _).symm)

end Location

/-! ## Places tell declarations apart -/

/-- No two entries have one place. -/
def DistinctPlaces (es : List SourceEntry) : Prop := (es.map (·.location)).Nodup

/-- No two classes have one qualified name. -/
def DistinctClasses (es : List SourceEntry) : Prop :=
  ((es.filter (·.isClass)).map (·.qualifiedName)).Nodup

variable {s s' : Snapshot} {es es' : List SourceEntry}

theorem getElem?_entries (s : Snapshot) (i : Nat) :
    s.entries[i]? = (s.get? i).map (·.entry s.place?) := by
  rw [entries, List.getElem?_map, Array.getElem?_toList, get?]

theorem location_getElem?_entries (s : Snapshot) (i : Nat) :
    s.entries[i]?.map (·.location) = s.place? i := by
  rw [getElem?_entries, place?, Option.map_map]
  rfl

theorem place?_injective (hd : DistinctPlaces s.entries) {i j : DeclId} {l : Location}
    (hi : s.place? i = some l) (hj : s.place? j = some l) : i = j := by
  rw [← location_getElem?_entries, ← List.getElem?_map] at hi hj
  obtain ⟨hlt, hi⟩ := List.getElem?_eq_some_iff.mp hi
  obtain ⟨hlt', hj⟩ := List.getElem?_eq_some_iff.mp hj
  exact (List.Nodup.getElem_inj_iff hd).mp (hi.trans hj.symm)

theorem get?_injective (hd : DistinctPlaces s.entries) {i j : DeclId} {d d' : Declaration}
    (hi : s.get? i = some d) (hj : s.get? j = some d') (hl : d.location = d'.location) : i = j :=
  place?_injective hd (by rw [place?, hi, Option.map_some, hl]) (by rw [place?, hj]; rfl)

theorem isClass_entry (place : DeclId → Option Location) (d : Declaration) :
    (d.entry place).isClass = d.class?.isSome := by
  unfold SourceEntry.isClass Declaration.class? Declaration.entry
  cases d.shape <;> rfl

theorem entry_mem {i : DeclId} {d : Declaration} (h : s.get? i = some d) :
    d.entry s.place? ∈ s.entries := by
  refine List.mem_of_getElem? (i := i) ?_
  rw [getElem?_entries, h, Option.map_some]

/-- With distinct names, a class is found under its name whatever its number. -/
theorem findClass_eq_some (hw : WellNumbered s) (hd : DistinctPlaces s.entries)
    (hc : DistinctClasses s.entries) {name : String} {i : DeclId} :
    s.findClass name = some i ↔ ∃ d, s.get? i = some d ∧ d.isClassNamed name := by
  refine ⟨hw.of_findClass, ?_⟩
  rintro ⟨d, hi, hname⟩
  rw [hw.findClass, Option.map_eq_some_iff]
  have hmem : d ∈ s.declarations.toList.reverse := by
    rw [List.mem_reverse]
    exact List.mem_of_getElem? (i := i) (by rw [Array.getElem?_toList]; exact hi)
  obtain ⟨d', hfind⟩ :
      ∃ d', s.declarations.toList.reverse.find? (·.isClassNamed name) = some d' := by
    rw [← Option.isSome_iff_exists, List.find?_isSome]
    exact ⟨d, hmem, hname⟩
  obtain ⟨j, hj⟩ := get?_of_mem (List.mem_reverse.mp (List.mem_of_find?_eq_some hfind))
  have hname' := List.find?_some hfind
  rw [Declaration.isClassNamed_iff] at hname hname'
  have heq : d.entry s.place? = d'.entry s.place? := by
    refine List.inj_on_of_nodup_map hc ?_ ?_ (hname.2.trans hname'.2.symm)
    · exact List.mem_filter.mpr ⟨entry_mem hi, by rw [isClass_entry, hname.1]⟩
    · exact List.mem_filter.mpr ⟨entry_mem hj, by rw [isClass_entry, hname'.1]⟩
  have hij : i = j := get?_injective hd hi hj (congrArg SourceEntry.location heq)
  exact ⟨d', hfind, (hw.id_eq hj).trans hij.symm⟩

/-! ## Numbers of a reordered list -/

/-- The elements of a list stand in a reordered list under other indices. -/
theorem exists_injective_of_perm {α : Type} {l l' : List α} (h : l.Perm l') :
    ∃ ρ : Nat → Nat, Function.Injective ρ ∧ ∀ i, l'[ρ i]? = l[i]? := by
  induction h with
  | nil => exact ⟨id, Function.injective_id, fun _ => rfl⟩
  | cons a _ ih =>
    obtain ⟨ρ, hinj, hget⟩ := ih
    refine ⟨fun i => i.casesOn 0 (ρ · + 1), ?_, ?_⟩
    · rintro (_ | i) (_ | j) hij
      · rfl
      · cases hij
      · cases hij
      · rw [hinj (Nat.succ.inj hij)]
    · rintro (_ | i)
      · rfl
      · simpa using hget i
  | swap a b l =>
    refine ⟨Equiv.swap 0 1, (Equiv.swap 0 1).injective, ?_⟩
    rintro (_ | _ | i)
    · rfl
    · rfl
    · rw [Equiv.swap_apply_of_ne_of_ne (by omega) (by omega)]
      rfl
  | trans _ _ ih ih' =>
    obtain ⟨ρ, hinj, hget⟩ := ih
    obtain ⟨σ, hinj', hget'⟩ := ih'
    exact ⟨σ ∘ ρ, hinj'.comp hinj, fun i => (hget' _).trans (hget i)⟩

theorem eq_of_map_eq {α β : Type} {f : α → β} : ∀ {l l' : List α},
    (∀ a ∈ l, ∀ b ∈ l', f a = f b → a = b) → l.map f = l'.map f → l = l'
  | [], [], _, _ => rfl
  | a :: l, b :: l', hinj, h => by
    rw [List.map_cons, List.map_cons, List.cons.injEq] at h
    rw [hinj a List.mem_cons_self b List.mem_cons_self h.1,
      eq_of_map_eq (fun a ha b hb => hinj a (.tail _ ha) b (.tail _ hb)) h.2]

/-! ## The snapshots of reordered files -/

theorem superTypeCount_eq (s : Snapshot) :
    s.superTypeCount = (s.entries.map (·.superTypeCount)).sum := by
  unfold superTypeCount entries
  rw [List.map_map]
  refine congrArg (List.foldr (· + ·) 0) (List.map_congr_left fun d _ => ?_)
  unfold Declaration.class? SourceEntry.superTypeCount Declaration.entry
  simp only [Function.comp_apply]
  cases d.shape <;> rfl

/-- The place of a declaration of a snapshot. -/
def placeOf (s : Snapshot) (id : DeclId) : Location := (s.place? id).getD ⟨"", 0, 0⟩

theorem placeOf_eq {i : DeclId} {d : Declaration} (h : s.get? i = some d) :
    s.placeOf i = d.location := by
  rw [placeOf, place?, h]
  rfl

theorem mem_carriers (hw : WellNumbered s) {name : String} {i : DeclId}
    (h : i ∈ s.carriers name) : ∃ d, s.get? i = some d := by
  obtain ⟨d, hd, hi⟩ := List.mem_flatMap.mp h
  obtain ⟨j, hj⟩ := get?_of_mem hd
  obtain ⟨-, -, rfl⟩ := List.mem_map.mp hi
  exact ⟨d, by rw [hw.id_eq hj, hj]⟩

theorem map_placeOf_carriers (hw : WellNumbered s) (name : String) :
    (s.carriers name).map s.placeOf = s.entries.flatMap (·.marks name) := by
  rw [carriers, List.map_flatMap, entries, List.flatMap_map]
  refine List.flatMap_congr fun d hd => ?_
  obtain ⟨i, hi⟩ := get?_of_mem hd
  have hplace : s.placeOf d.id = d.location := placeOf_eq (by rw [hw.id_eq hi, hi])
  simp only [Declaration.marks, SourceEntry.marks, Declaration.entry, List.map_map,
    Function.comp_def, hplace]

/-- The places of the declarations that carry an annotation come in the order of the source. -/
theorem Lists.map_placeOf_annotated (h : Lists s es) (hd : DistinctPlaces es) (name : String) :
    (s.annotated name).map s.placeOf = (es.flatMap (·.marks name)).mergeSort Location.isLE := by
  rw [h.annotated, ← h.entries, ← map_placeOf_carriers h.wellNumbered]
  refine List.map_mergeSort fun i hi j hj => ?_
  obtain ⟨d, hdi⟩ := mem_carriers h.wellNumbered hi
  obtain ⟨d', hdj⟩ := mem_carriers h.wellNumbered hj
  rw [placeOf_eq hdi, placeOf_eq hdj]
  have hi' : s.declarations[i]? = some d := hdi
  have hj' : s.declarations[j]? = some d' := hdj
  simp only [notAfter, hi', hj', Location.isLE]
  -- Only a declaration itself stands in its place, so that the numbers decide nothing.
  rcases hc : Location.compare d.location d'.location
  · rfl
  · rw [get?_injective (h.entries ▸ hd) hdi hdj (Location.eq_of_compare hc)]
    simp
  · rfl

theorem Lists.mem_annotated (h : Lists s es) {name : String} {i : DeclId}
    (hi : i ∈ s.annotated name) : ∃ d, s.get? i = some d := by
  rw [h.annotated] at hi
  exact mem_carriers h.wellNumbered (List.mem_mergeSort.mp hi)

theorem DistinctPlaces.perm (hd : DistinctPlaces es) (hp : es.Perm es') : DistinctPlaces es' :=
  (hp.map _).nodup_iff.mp hd

theorem DistinctClasses.perm (hc : DistinctClasses es) (hp : es.Perm es') : DistinctClasses es' :=
  ((hp.filter _).map _).nodup_iff.mp hc

section Moved

variable {ρ : DeclId → DeclId} (hentry : ∀ i, s'.entries[ρ i]? = s.entries[i]?)
include hentry

theorem place?_moved (i : DeclId) : s'.place? (ρ i) = s.place? i := by
  rw [← location_getElem?_entries, hentry, location_getElem?_entries]

/-- An entry that moves from `i` to `ρ i` takes its declaration along. -/
theorem get?_moved (hw : WellNumbered s) (hw' : WellNumbered s') (hd' : DistinctPlaces s'.entries)
    (i : DeclId) : s'.get? (ρ i) = (s.get? i).map (·.renumber ρ) := by
  have hi := hentry i
  rw [getElem?_entries, getElem?_entries] at hi
  rcases hs : s.get? i with _ | d
  · rw [hs, Option.map_none, Option.map_eq_none_iff] at hi
    rw [hi, Option.map_none]
  · rw [hs, Option.map_some, Option.map_eq_some_iff] at hi
    obtain ⟨d', hs', he⟩ := hi
    rw [hs', Option.map_some, Option.some.injEq]
    have hparent : d'.parent = d.parent.map ρ := by
      have hplaces : d'.parent.bind s'.place? = d.parent.bind s.place? :=
        congrArg SourceEntry.parent he
      rcases hp : d.parent with _ | p
      · rcases hp' : d'.parent with _ | p'
        · rfl
        · obtain ⟨-, c', hc', -⟩ := hw'.parent hs' hp'
          rw [hp, hp', Option.bind_some, place?, hc'] at hplaces
          cases hplaces
      · obtain ⟨-, c, hc, -⟩ := hw.parent hs hp
        have hplace : s.place? p = some c.location := by rw [place?, hc, Option.map_some]
        rw [hp, Option.bind_some, hplace, Option.bind_eq_some_iff] at hplaces
        obtain ⟨p', hp', hplace'⟩ := hplaces
        rw [← place?_moved hentry] at hplace
        rw [hp', Option.map_some, place?_injective hd' hplace' hplace]
    have hid : d'.id = ρ d.id := by rw [hw'.id_eq hs', hw.id_eq hs]
    obtain ⟨⟩ := d
    obtain ⟨⟩ := d'
    simp only [Declaration.entry, SourceEntry.mk.injEq] at he
    simp_all [Declaration.renumber]

theorem Lists.annotated_moved (h : Lists s es) (h' : Lists s' es') (hp : es.Perm es')
    (hd : DistinctPlaces es) (name : String) :
    s'.annotated name = (s.annotated name).map ρ := by
  have hd' : DistinctPlaces s'.entries := h'.entries ▸ hd.perm hp
  have hplaces : (s'.annotated name).map s'.placeOf =
      ((s.annotated name).map ρ).map s'.placeOf := by
    rw [List.map_map, h'.map_placeOf_annotated (hd.perm hp),
      Location.mergeSort_congr (hp.flatMap_right _).symm, ← h.map_placeOf_annotated hd]
    refine List.map_congr_left fun i _ => ?_
    rw [Function.comp_apply, placeOf, placeOf, place?_moved hentry]
  refine eq_of_map_eq (fun i hi j hj hij => ?_) hplaces
  obtain ⟨k, hk, rfl⟩ := List.mem_map.mp hj
  obtain ⟨d, hdi⟩ := h'.mem_annotated hi
  obtain ⟨d', hdk⟩ := h.mem_annotated hk
  have hdj : s'.get? (ρ k) = some (d'.renumber ρ) := by
    rw [get?_moved hentry h.wellNumbered h'.wellNumbered hd', hdk, Option.map_some]
  rw [placeOf_eq hdi, placeOf_eq hdj] at hij
  exact get?_injective hd' hdi hdj hij

theorem Lists.findClass_moved (h : Lists s es) (h' : Lists s' es') (hp : es.Perm es')
    (hd : DistinctPlaces es) (hc : DistinctClasses es) (name : String) :
    s'.findClass name = (s.findClass name).map ρ := by
  have hd' : DistinctPlaces s'.entries := h'.entries ▸ hd.perm hp
  have hc' : DistinctClasses s'.entries := h'.entries ▸ hc.perm hp
  have hd₀ : DistinctPlaces s.entries := h.entries ▸ hd
  have hc₀ : DistinctClasses s.entries := h.entries ▸ hc
  rcases hi : s.findClass name with _ | i
  · rw [Option.map_none, Option.eq_none_iff_forall_ne_some]
    intro j hj
    obtain ⟨d', hdj, hname⟩ := h'.wellNumbered.of_findClass hj
    have hmem : d'.entry s'.place? ∈ s.entries := by
      rw [h.entries, hp.mem_iff, ← h'.entries]
      exact entry_mem hdj
    obtain ⟨d, hmem, he⟩ := List.mem_map.mp hmem
    obtain ⟨i, hdi⟩ := get?_of_mem hmem
    have hname' : d.isClassNamed name := by
      rw [Declaration.isClassNamed, ← isClass_entry s.place?, he, isClass_entry,
        show d.qualifiedName = d'.qualifiedName from congrArg SourceEntry.qualifiedName he]
      exact hname
    rw [(findClass_eq_some h.wellNumbered hd₀ hc₀).mpr ⟨d, hdi, hname'⟩] at hi
    cases hi
  · obtain ⟨d, hdi, hname⟩ := h.wellNumbered.of_findClass hi
    rw [Option.map_some, findClass_eq_some h'.wellNumbered hd' hc']
    refine ⟨d.renumber ρ, ?_, hname⟩
    rw [get?_moved hentry h.wellNumbered h'.wellNumbered hd', hdi, Option.map_some]

end Moved

/-- Snapshots that hold the same entries in another order differ in the numbers only. -/
theorem Lists.exists_renumbering (h : Lists s es) (h' : Lists s' es') (hp : es.Perm es')
    (hd : DistinctPlaces es) (hc : DistinctClasses es) : ∃ ρ, Renumbering s s' ρ := by
  obtain ⟨ρ, hinj, hget⟩ := exists_injective_of_perm hp
  have hentry : ∀ i, s'.entries[ρ i]? = s.entries[i]? := by
    rw [h.entries, h'.entries]
    exact hget
  refine ⟨ρ, hinj, ?_, h.wellNumbered.id_eq, h.annotated_moved hentry h' hp hd,
    h.findClass_moved hentry h' hp hd hc, ?_⟩
  · exact get?_moved hentry h.wellNumbered h'.wellNumbered (h'.entries ▸ hd.perm hp)
  · rw [superTypeCount_eq, superTypeCount_eq, h.entries, h'.entries]
    exact (hp.map _).symm.sum_eq

end Snapshot

end BoundaryGen
