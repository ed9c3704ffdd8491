-- The law of the source order: in whatever order files, declarations and
-- members are listed, a generation gives the same units, the same manifest and
-- the same diagnostics. Only the places in the source put them in order.
import Mathlib
import BoundaryGen.Loading
import BoundaryGen.Proofs.Files.Changes
import BoundaryGen.Proofs.Generation.Renumbering
import BoundaryGen.Proofs.Snapshot.Reordering
import BoundaryGen.Source.Build

namespace BoundaryGen.Snapshot

/-! ## Equal up to numbers -/

/-- Two generations with the same results. The numbers of declarations in the units may differ. -/
structure SameResults (g g' : Generation) : Prop where
  units : g'.units.map WrapperUnit.withoutIds = g.units.map WrapperUnit.withoutIds
  manifest : g'.manifest = g.manifest
  diagnostics : g'.diagnostics = g.diagnostics

/-- There are two snapshots, which give the same results under every configuration, or there is
none. -/
def SameOutcome {ε : Type} (r r' : Except ε Snapshot) : Prop :=
  (∃ e e', r = .error e ∧ r' = .error e') ∨
    ∃ s s', r = .ok s ∧ r' = .ok s' ∧ ∀ config, SameResults (s.generate config) (s'.generate config)

variable {s s' : Snapshot} {ρ : DeclId → DeclId}

theorem Renumbering.sameResults (h : Renumbering s s' ρ) (config : Config) :
    SameResults (s.generate config) (s'.generate config) := by
  have houtcomes : (s'.models config).map (s'.unit config) =
      (s.models config).map fun m => ((s.unit config m).1.renumber ρ, (s.unit config m).2) := by
    rw [h.models, List.map_map]
    exact List.map_congr_left fun m _ => h.unit config m
  refine ⟨?_, ?_, ?_⟩
  · simp only [Snapshot.generate, houtcomes, List.map_map, Function.comp_def,
      WrapperUnit.withoutIds_renumber]
  · simp only [Snapshot.generate]
    rw [h.models, h.manifest]
  · simp only [Snapshot.generate, houtcomes, List.flatMap_map]

/-! ## Snapshots of reordered files -/

variable {files files' : List SourceFile}

theorem sameOutcome_ofFiles (h : Reordered files files') (hd : DistinctPlaces (listing files))
    (hc : DistinctClasses (listing files)) : SameOutcome (ofFiles files) (ofFiles files') := by
  have hp := h.listing
  have hok : (ofFiles files').isOk = (ofFiles files).isOk := by
    rw [isOk_ofFiles, isOk_ofFiles, hp.all_eq]
  rcases hs : ofFiles files with e | s <;> rcases hs' : ofFiles files' with e' | s'
  · exact Or.inl ⟨e, e', rfl, rfl⟩
  · rw [hs, hs'] at hok
    cases hok
  · rw [hs, hs'] at hok
    cases hok
  · have hsorted : (listing (files.mergeSort fun a b => a.path ≤ b.path)).Perm (listing files) :=
      (List.mergeSort_perm files _).flatMap_right _
    have hsorted' : (listing (files'.mergeSort fun a b => a.path ≤ b.path)).Perm
        (listing files') := (List.mergeSort_perm files' _).flatMap_right _
    obtain ⟨ρ, hρ⟩ := (lists_ofFiles hs).exists_renumbering (lists_ofFiles hs')
      (hsorted.trans (hp.trans hsorted'.symm)) (hd.perm hsorted.symm) (hc.perm hsorted.symm)
    exact Or.inr ⟨s, s', rfl, rfl, hρ.sameResults⟩

/-! ## Snapshots of directories -/

/-- The source files of every document that is seen below a directory of a tree. -/
def readDocuments (skip : List String) (path : String) :
    ExceptT Error (StateM FileTree) (List (List SourceFile)) := do
  (← (snapshotFiles skip path : StateM FileTree _)).mapM readSourceFiles

/-- A tree with a directory that holds some documents. -/
structure HoldsDocuments (t : FileTree) (skip : List String) (path : String)
    (documents : List (List SourceFile)) : Prop where
  directory : t.kind? path = some .directory
  read : ((readDocuments skip path).run t).1 = .ok documents

/-- The snapshot at a path of a tree. -/
def loadedFrom (t : FileTree) (skip : List String) (path : String) : Except Error Snapshot :=
  ((Snapshot.load skip path : ExceptT Error (StateM FileTree) _).run t).1

/-- The snapshot of a directory is that of the files of its documents. -/
theorem HoldsDocuments.loadedFrom_eq {t : FileTree} {skip : List String} {path : String}
    {documents : List (List SourceFile)} (h : HoldsDocuments t skip path documents) :
    loadedFrom t skip path = (ofFiles documents.flatten).mapError Error.unnamed := by
  have hkind : ((liftM (Disk.kind? path : StateM FileTree _) :
      ExceptT Error (StateM FileTree) _).run t) = (.ok (some .directory), t) := by
    rw [← h.directory]
    rfl
  have hread : (readDocuments skip path).run t =
      (.ok documents, ((readDocuments skip path).run t).2) := Prod.ext h.read rfl
  have hcollect : ((do
      let documents ← readDocuments skip path
      liftExcept ((ofFiles documents.flatten).mapError Error.unnamed) :
      ExceptT Error (StateM FileTree) _).run t).1 = loadedFrom t skip path := by
    unfold loadedFrom Snapshot.load collectSourceFiles readDocuments
    simp only [bind_assoc]
    rw [FileTree.run_bind_of_ok hkind]
    simp only [bind_assoc, pure_bind]
  rw [← hcollect, FileTree.run_bind_of_ok hread]
  cases ofFiles documents.flatten <;> rfl

theorem SameOutcome.mapError {ε ε' : Type} {r r' : Except ε Snapshot} (h : SameOutcome r r')
    (f : ε → ε') : SameOutcome (r.mapError f) (r'.mapError f) := by
  rcases h with ⟨e, e', rfl, rfl⟩ | ⟨s, s', rfl, rfl, hsame⟩
  · exact Or.inl ⟨_, _, rfl, rfl⟩
  · exact Or.inr ⟨s, s', rfl, rfl, hsame⟩

/-! ## The law of the source order -/

/-- Files that differ in no more than the order of listing give the same results. It does not
matter either how they are spread over the documents of a directory. -/
theorem the_source_order_decides (h : Reordered files files')
    (hd : DistinctPlaces (listing files)) (hc : DistinctClasses (listing files)) :
    SameOutcome (ofFiles files) (ofFiles files') ∧
      ∀ {t t' : FileTree} {skip skip' : List String} {path path' : String}
        {documents documents' : List (List SourceFile)},
        HoldsDocuments t skip path documents → HoldsDocuments t' skip' path' documents' →
        documents.flatten.Perm files → documents'.flatten.Perm files' →
        SameOutcome (loadedFrom t skip path) (loadedFrom t' skip' path') := by
  refine ⟨sameOutcome_ofFiles h hd hc, ?_⟩
  intro t t' skip skip' path path' documents documents' hholds hholds' hp hp'
  have hreordered : Reordered documents.flatten documents'.flatten :=
    (Reordered.of_perm hp).trans (h.trans (Reordered.of_perm hp'.symm))
  have hlisting : (listing files).Perm (listing documents.flatten) :=
    (Reordered.of_perm hp.symm).listing
  rw [hholds.loadedFrom_eq, hholds'.loadedFrom_eq]
  exact (sameOutcome_ofFiles hreordered (hd.perm hlisting) (hc.perm hlisting)).mapError _

/-- A model with two intents, in one of two files. -/
def chatFiles (members : List Node) : List SourceFile := [
  { path := "chat.kt"
    package := "chat"
    declarations := [.ofClass
      { name := "Chat", line := 1, annotations := [{ name := ({} : AnnotationNames).model }] }
      {} members] },
  { path := "log.kt", declarations := [Node.functionNamed "log"] }]

def chatIntent (name : String) (line : UInt32) : Node :=
  .ofFunction { name, line, annotations := [{ name := ({} : AnnotationNames).intent }] } {}

theorem chat_in_another_order :
    let files := chatFiles [chatIntent "send" 2, chatIntent "leave" 3]
    let files' := (chatFiles [chatIntent "leave" 3, chatIntent "send" 2]).reverse
    Reordered files files' ∧ DistinctPlaces (listing files) ∧ DistinctClasses (listing files) ∧
      (ofFiles files).isOk ∧ SameOutcome (ofFiles files) (ofFiles files') := by
  have hr : Reordered (chatFiles [chatIntent "send" 2, chatIntent "leave" 3])
      (chatFiles [chatIntent "leave" 3, chatIntent "send" 2]).reverse :=
    .trans (.file (.ofClass .swap .nil) (.file (Shuffled.refl _) .nil)) .swap
  have hd : DistinctPlaces (listing (chatFiles [chatIntent "send" 2, chatIntent "leave" 3])) := by
    unfold DistinctPlaces
    decide +kernel
  have hc : DistinctClasses (listing (chatFiles [chatIntent "send" 2, chatIntent "leave" 3])) := by
    unfold DistinctClasses
    decide +kernel
  exact ⟨hr, hd, hc, by rw [isOk_ofFiles]; decide +kernel, (the_source_order_decides hr hd hc).1⟩

end BoundaryGen.Snapshot
