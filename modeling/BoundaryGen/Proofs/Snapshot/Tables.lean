-- The tables of a snapshot: what they tell of an annotation, of the name of a class and of a
-- package is what a scan of all declarations, and of the packages of the files, finds.
import Mathlib
import BoundaryGen.Proofs.Snapshot.Annotated
import BoundaryGen.Source.Build

namespace BoundaryGen

namespace Snapshot

variable {s s' : Snapshot} {es : List SourceEntry} {name : String} {i j : DeclId}
  {d d' : Declaration}

/-- The tables of a snapshot of some files agree with a scan. For an annotation they list every
declaration as often as it carries it, in the order of the source. Of the classes of a name they
give the one with the greatest number. They know a package when a file lies in it or below it. -/
structure TablesAgree (s : Snapshot) (files : List SourceFile) : Prop where
  id_eq : ∀ i, ∀ d ∈ s.get? i, d.id = i
  count_annotated : ∀ name i,
    (s.annotated name).count i = ((s.get? i).map (·.timesMarked name)).getD 0
  annotated_sorted : ∀ name, (s.annotated name).Pairwise s.NoLater
  findClass_eq_some : ∀ name i, s.findClass name = some i ↔
    IsGreatest {i | ∃ d ∈ s.get? i, d.class?.isSome ∧ d.qualifiedName = name} i
  findClass_eq_none : ∀ name, s.findClass name = none ↔
    ∀ i, ∀ d ∈ s.get? i, d.class?.isSome → d.qualifiedName ≠ name
  hasPackage : ∀ package, s.hasPackage package ↔ ∃ file ∈ files,
    file.package = package ∨ ∃ inner, file.package = package ++ "." ++ inner

/-! ## Annotations -/

theorem Lists.count_annotated_eq (h : Lists s es) (name : String) (i : DeclId) :
    (s.annotated name).count i = ((s.get? i).map (·.timesMarked name)).getD 0 := by
  rcases hd : s.get? i with _ | d
  · refine List.count_eq_zero_of_not_mem fun hmem => ?_
    obtain ⟨d, hdeclared, rfl, -⟩ := h.mem_annotated_iff.mp hmem
    rw [h.wellNumbered.get?_id hdeclared] at hd
    cases hd
  · have hdeclared : d ∈ s.declarations := Array.mem_of_getElem? hd
    rw [← h.wellNumbered.id_eq hd, h.count_annotated hdeclared]
    rfl

/-! ## Classes -/

theorem WellNumbered.le_of_findClass (hw : WellNumbered s) (h : s.findClass name = some i)
    (hd : s.get? j = some d) (hname : d.isClassNamed name) : j ≤ i := by
  rw [hw.findClass, Option.map_eq_some_iff] at h
  obtain ⟨last, hfind, rfl⟩ := h
  -- The class is the first one from behind: all that is met before it has another name.
  obtain ⟨-, behind, before, hsplit, hbehind⟩ := List.find?_eq_some_iff_append.mp hfind
  have hsorted := List.pairwise_reverse.mpr hw.pairwise_id_lt
  have hmem : d ∈ s.declarations.toList.reverse := by
    rw [List.mem_reverse, Array.mem_toList_iff]
    exact Array.mem_of_getElem? hd
  rw [hsplit] at hsorted hmem
  rw [← hw.id_eq hd]
  rcases List.mem_append.mp hmem with hmem | hmem
  · have hother := hbehind d hmem
    rw [hname] at hother
    cases hother
  · rcases List.mem_cons.mp hmem with rfl | hmem
    · exact Nat.le_refl _
    · exact ((List.pairwise_cons.mp (List.pairwise_append.mp hsorted).2.1).1 d hmem).le

theorem WellNumbered.findClass_eq_none_iff (hw : WellNumbered s) :
    s.findClass name = none ↔ ∀ i, ∀ d ∈ s.get? i, ¬ d.isClassNamed name := by
  rw [hw.findClass, Option.map_eq_none_iff, List.find?_eq_none]
  simp only [List.mem_reverse, Array.mem_toList_iff]
  constructor
  · intro h i d hd
    exact h d (Array.mem_of_getElem? hd)
  · intro h d hd
    exact h d.id d (hw.get?_id hd)

/-- Of the classes of a name, the one with the greatest number is found. -/
theorem WellNumbered.findClass_eq_some_iff (hw : WellNumbered s) :
    s.findClass name = some i ↔ IsGreatest {i | ∃ d ∈ s.get? i, d.isClassNamed name} i := by
  have hgreatest {i} (h : s.findClass name = some i) :
      IsGreatest {i | ∃ d ∈ s.get? i, d.isClassNamed name} i :=
    ⟨hw.of_findClass h, fun j ⟨_, hd, hname⟩ => hw.le_of_findClass h hd hname⟩
  refine ⟨hgreatest, fun h => ?_⟩
  rcases hfind : s.findClass name with _ | j
  · obtain ⟨d, hd, hname⟩ := h.1
    exact absurd hname (hw.findClass_eq_none_iff.mp hfind i d hd)
  · rw [(hgreatest hfind).unique h]

/-! ## Packages -/

mutual
/-- A declaration that is added leaves the packages alone. -/
theorem packages_addNode {scope : Scope} : ∀ (node : Node) {s s' : Snapshot},
    addNode scope node s = .ok s' → s'.packages = s.packages
  | .ofClass header shape members, s, s', h => by
    rw [addNode] at h
    split at h
    · cases h
    · have hmembers := packages_addNodes members h
      exact hmembers
  | .ofFunction header shape, s, s', h => by
    rw [addNode] at h
    split at h
    · cases h
    · cases h
      rfl
theorem packages_addNodes {scope : Scope} : ∀ (nodes : List Node) {s s' : Snapshot},
    addNodes scope nodes s = .ok s' → s'.packages = s.packages
  | [], s, s', h => by
    rw [addNodes] at h
    cases h
    rfl
  | node :: rest, s, s', h => by
    rw [addNodes] at h
    obtain ⟨t, hnode, hrest⟩ := bind_eq_ok h
    exact (packages_addNodes rest hrest).trans (packages_addNode node hnode)
end

theorem packages_addFiles {files : List SourceFile} (h : files.foldlM addFile s = .ok s') :
    s'.packages = s.packages ++ files.map (·.package) := by
  induction files generalizing s with
  | nil =>
    cases h
    exact (List.append_nil _).symm
  | cons file files ih =>
    rw [List.foldlM_cons] at h
    obtain ⟨t, hfile, hrest⟩ := bind_eq_ok h
    have hfirst : t.packages = s.packages ++ [file.package] :=
      packages_addNodes file.declarations hfile
    rw [ih hrest, hfirst, List.append_assoc, List.map_cons, List.singleton_append]

/-- The packages of a snapshot are those of its files. -/
theorem packages_ofFiles {files : List SourceFile} (h : ofFiles files = .ok s) :
    s.packages.Perm (files.map (·.package)) := by
  obtain ⟨t, hadd, rfl⟩ := exists_addFiles_of_ofFiles h
  have hpackages : t.packages = _ := packages_addFiles hadd
  rw [sortAnnotated, hpackages]
  exact (List.mergeSort_perm files _).map _

theorem hasPackage_iff {package : String} : s.hasPackage package ↔
    ∃ p ∈ s.packages, p = package ∨ ∃ inner, p = package ++ "." ++ inner := by
  have hprefix (p : String) : (package ++ ".").toList <+: p.toList ↔
      ∃ inner, p = package ++ "." ++ inner := by
    constructor
    · rintro ⟨inner, h⟩
      refine ⟨String.ofList inner, ?_⟩
      rw [← String.toList_inj, String.toList_append, ← h, String.toList_ofList]
    · rintro ⟨inner, rfl⟩
      simp only [String.toList_append]
      exact List.prefix_append _ _
  simp only [hasPackage, List.any_eq_true, Bool.or_eq_true, decide_eq_true_eq,
    List.isPrefixOf_iff_prefix, hprefix]

/-! ## The law of the tables -/

/-- The tables that are filled while the files are added agree with a scan of what was added. -/
theorem tables_agree_with_a_scan {files : List SourceFile} (hs : ofFiles files = .ok s) :
    s.TablesAgree files := by
  have h := lists_ofFiles hs
  have hw := h.wellNumbered
  refine ⟨fun i d hd => hw.id_eq hd, h.count_annotated_eq, h.noLater_annotated, fun name i => ?_,
    fun name => ?_, fun package => ?_⟩
  · simp only [hw.findClass_eq_some_iff, Declaration.isClassNamed_iff]
  · simp only [hw.findClass_eq_none_iff, Declaration.isClassNamed_iff, not_and, ne_eq]
  · rw [hasPackage_iff]
    simp only [(packages_ofFiles hs).mem_iff, List.mem_map, exists_exists_and_eq_and]

/-- Two files that come in the other order by their paths. Both have a class of one name. In the
first one a function stands above the class that is listed before it. -/
def lampFiles : List SourceFile :=
  let lamp (line : UInt32) : Node :=
    Node.classNamed "Lamp" |>.atLine line |>.annotated { name := "Lit" }
  [{ path := "b/Lamp.kt"
     package := "house.hall"
     declarations :=
      [lamp 3 |>.annotated { name := "Lit" }
        |>.withMember (Node.classNamed "Bulb" |>.atLine 4),
      Node.functionNamed "dim" |>.atLine 1 |>.annotated { name := "Lit" }] },
    { path := "a/Lamp.kt", package := "house.hall", declarations := [lamp 7] }]

theorem the_last_lamp_is_found : ∃ s, ofFiles lampFiles = .ok s ∧ s.TablesAgree lampFiles ∧
    s.annotated "Lit" = [0, 3, 1, 1] ∧ s.findClass "house.hall.Lamp" = some 1 ∧
      s.findClass "Lamp" = none ∧ s.hasPackage "house" ∧ ¬ s.hasPackage "hou" := by
  have hfiles : ofFiles lampFiles = sortAnnotated <$> lampFiles.reverse.foldlM addFile {} := by
    have hsorted : lampFiles.mergeSort (fun a b => a.path ≤ b.path) = lampFiles.reverse := by
      simp [lampFiles, List.mergeSort, List.MergeSort.Internal.splitInTwo]
    rw [ofFiles, hsorted]
  -- Sorting does not compute here, so the order is told by what a sorted list is.
  have h : ((ofFiles lampFiles).toOption.any fun s =>
      ([0, 3, 1, 1].Perm (s.carriers "Lit") ∧ [0, 3, 1, 1].Pairwise (s.notBehind · ·)) ∧
        s.findClass "house.hall.Lamp" = some 1 ∧ s.findClass "Lamp" = none ∧
          s.hasPackage "house" ∧ ¬ s.hasPackage "hou") = true := by
    rw [hfiles]
    decide +kernel
  obtain ⟨s, hs, htold⟩ := exists_of_toOption_any h
  obtain ⟨⟨hperm, hsorted⟩, hrest⟩ := of_decide_eq_true htold
  have hl := lists_ofFiles hs
  have hannotated := eq_of_perm_of_notBehind ((hl.perm_annotated "Lit").trans hperm.symm)
    (hl.pairwise_annotated "Lit") hsorted
  exact ⟨s, hs, tables_agree_with_a_scan hs, hannotated, hrest⟩

end Snapshot

end BoundaryGen
