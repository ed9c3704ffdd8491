-- The declarations of files with their numbers. They depend on where the numbers start in no other
-- way than that all numbers are shifted.
import Mathlib
import BoundaryGen.Proofs.Snapshot.Listing
import BoundaryGen.Proofs.Snapshot.Renumbering

namespace BoundaryGen.Snapshot

/-! ## Declarations with numbers -/

namespace Scope

/-- A declaration in a scope, under a number. -/
def declared (scope : Scope) (id : DeclId) (header : Header) (shape : Shape) : Declaration where
  id
  simpleName := header.name
  qualifiedName := qualify scope.name header.name
  package := scope.package
  parent := scope.parent
  location := { file := scope.path, line := header.line, column := header.column }
  annotations := header.annotations
  modifiers := header.modifiers
  shape

/-- The scope of the members of a class. -/
def inside (scope : Scope) (id : DeclId) (header : Header) : Scope :=
  { scope with parent := some id, name := qualify scope.name header.name }

/-- A scope whose class has a greater number. -/
def shift (k : Nat) (scope : Scope) : Scope := { scope with parent := scope.parent.map (· + k) }

end Scope

mutual
/-- A declaration and everything inside it, numbered from `start` on. -/
def numbered (scope : Scope) (start : DeclId) : Node → List Declaration
  | .ofClass header shape members =>
    scope.declared start header (.class_ shape) ::
      numberedAll (scope.inside start header) (start + 1) members
  | .ofFunction header shape => [scope.declared start header (.function shape)]
/-- Some declarations and everything inside them, numbered from `start` on. -/
def numberedAll (scope : Scope) (start : DeclId) : List Node → List Declaration
  | [] => []
  | node :: rest =>
    numbered scope start node ++
      numberedAll scope (start + (numbered scope start node).length) rest
end

/-- The declarations of some files, numbered from `start` on. -/
def numberedFiles (start : DeclId) : List SourceFile → List Declaration
  | [] => []
  | file :: files =>
    numberedAll (.ofFile file) start file.declarations ++
      numberedFiles (start + (numberedAll (.ofFile file) start file.declarations).length) files

variable {s s' : Snapshot} {scope : Scope} {start : DeclId}

/-! ## The declarations of a snapshot -/

mutual
theorem declarations_addNode {scope : Scope} : ∀ (node : Node) {s s' : Snapshot},
    addNode scope node s = .ok s' →
      s'.declarations.toList = s.declarations.toList ++ numbered scope s.declarations.size node
  | .ofClass header shape members, s, s', h => by
    rw [addNode] at h
    split at h
    · cases h
    · rw [declarations_addNodes members h, declarations_push, Array.toList_push, Array.size_push,
        List.append_assoc]
      rfl
  | .ofFunction header shape, s, s', h => by
    rw [addNode] at h
    split at h
    · cases h
    · cases h
      rw [declarations_push, Array.toList_push]
      rfl
theorem declarations_addNodes {scope : Scope} : ∀ (nodes : List Node) {s s' : Snapshot},
    addNodes scope nodes s = .ok s' →
      s'.declarations.toList = s.declarations.toList ++ numberedAll scope s.declarations.size nodes
  | [], s, s', h => by
    rw [addNodes] at h
    cases h
    exact (List.append_nil _).symm
  | node :: rest, s, s', h => by
    rw [addNodes] at h
    obtain ⟨t, hnode, hrest⟩ := bind_eq_ok h
    have hfirst := declarations_addNode node hnode
    have hsize := congrArg List.length hfirst
    rw [List.length_append, Array.length_toList, Array.length_toList] at hsize
    rw [declarations_addNodes rest hrest, hfirst, hsize, List.append_assoc]
    rfl
end

theorem declarations_addFiles {files : List SourceFile} (h : files.foldlM addFile s = .ok s') :
    s'.declarations.toList =
      s.declarations.toList ++ numberedFiles s.declarations.size files := by
  induction files generalizing s with
  | nil =>
    cases h
    exact (List.append_nil _).symm
  | cons file files ih =>
    rw [List.foldlM_cons] at h
    obtain ⟨t, hfile, hrest⟩ := bind_eq_ok h
    have hnodes : addNodes (.ofFile file) file.declarations
        { s with packages := s.packages ++ [file.package] } = .ok t := hfile
    have hfirst := declarations_addNodes file.declarations hnodes
    change t.declarations.toList = s.declarations.toList ++
      numberedAll (.ofFile file) s.declarations.size file.declarations at hfirst
    have hsize := congrArg List.length hfirst
    rw [List.length_append, Array.length_toList, Array.length_toList] at hsize
    rw [ih hrest, hfirst, hsize, List.append_assoc]
    rfl

/-- The declarations of a snapshot are those of its files in the order of their paths. -/
theorem declarations_ofFiles {files : List SourceFile} (h : ofFiles files = .ok s) :
    s.declarations.toList = numberedFiles 0 (files.mergeSort fun a b => a.path ≤ b.path) := by
  obtain ⟨t, hadd, rfl⟩ := exists_addFiles_of_ofFiles h
  exact declarations_addFiles hadd

/-! ## Shifted numbers -/

variable {k : Nat}

mutual
theorem numbered_shift (scope : Scope) (start : DeclId) : ∀ node : Node,
    numbered (scope.shift k) (start + k) node =
      (numbered scope start node).map (·.renumber (· + k))
  | .ofClass header shape members => by
    have hinside :
        (scope.shift k).inside (start + k) header = (scope.inside start header).shift k :=
      rfl
    rw [numbered, numbered, List.map_cons, hinside, Nat.add_right_comm,
      numberedAll_shift (scope.inside start header) (start + 1) members]
    rfl
  | .ofFunction header shape => by
    rw [numbered, numbered]
    rfl
theorem numberedAll_shift (scope : Scope) (start : DeclId) : ∀ nodes : List Node,
    numberedAll (scope.shift k) (start + k) nodes =
      (numberedAll scope start nodes).map (·.renumber (· + k))
  | [] => by
    rw [numberedAll, numberedAll, List.map_nil]
  | node :: rest => by
    rw [numberedAll, numberedAll, List.map_append, numbered_shift scope start node, List.length_map,
      Nat.add_right_comm, numberedAll_shift scope _ rest]
end

theorem numberedFiles_shift (start : DeclId) (files : List SourceFile) :
    numberedFiles (start + k) files =
      (numberedFiles start files).map (·.renumber (· + k)) := by
  induction files generalizing start with
  | nil => rfl
  | cons file files ih =>
    have hfile : numberedAll (.ofFile file) (start + k) file.declarations = _ :=
      numberedAll_shift (.ofFile file) start file.declarations
    rw [numberedFiles, numberedFiles, List.map_append, hfile, List.length_map, Nat.add_right_comm,
      ih]

theorem numberedFiles_append (start : DeclId) (files files' : List SourceFile) :
    numberedFiles start (files ++ files') = numberedFiles start files ++
      numberedFiles (start + (numberedFiles start files).length) files' := by
  induction files generalizing start with
  | nil => rfl
  | cons file files ih =>
    rw [List.cons_append, numberedFiles, numberedFiles, ih, List.append_assoc, List.length_append,
      Nat.add_assoc]

/-! ## Parents -/

mutual
theorem parent_numbered {scope : Scope} {start : DeclId} : ∀ (node : Node) {d : Declaration},
    d ∈ numbered scope start node → ∀ {p}, d.parent = some p → scope.parent = some p ∨ start ≤ p
  | .ofClass header shape members, d, h, p, hp => by
    rw [numbered] at h
    rcases List.mem_cons.mp h with rfl | h
    · exact Or.inl hp
    · rcases parent_numberedAll members h hp with hparent | hle
      · cases hparent
        exact Or.inr (Nat.le_refl _)
      · exact Or.inr (Nat.le_of_succ_le hle)
  | .ofFunction header shape, d, h, p, hp => by
    rw [numbered, List.mem_singleton] at h
    rw [h] at hp
    exact Or.inl hp
theorem parent_numberedAll {scope : Scope} {start : DeclId} :
    ∀ (nodes : List Node) {d : Declaration}, d ∈ numberedAll scope start nodes →
      ∀ {p}, d.parent = some p → scope.parent = some p ∨ start ≤ p
  | [], d, h, p, hp => by
    rw [numberedAll] at h
    cases h
  | node :: rest, d, h, p, hp => by
    rw [numberedAll] at h
    rcases List.mem_append.mp h with h | h
    · exact parent_numbered node h hp
    · rcases parent_numberedAll rest h hp with hparent | hle
      · exact Or.inl hparent
      · exact Or.inr (Nat.le_trans (Nat.le_add_right _ _) hle)
end

/-- The parents of the declarations of some files are declared in these files. -/
theorem le_of_parent_numberedFiles {files : List SourceFile} {d : Declaration}
    (h : d ∈ numberedFiles start files) {p : DeclId} (hp : d.parent = some p) : start ≤ p := by
  induction files generalizing start with
  | nil => cases h
  | cons file files ih =>
    rw [numberedFiles] at h
    rcases List.mem_append.mp h with h | h
    · exact (parent_numberedAll file.declarations h hp).resolve_left (Option.not_mem_none p)
    · exact Nat.le_trans (Nat.le_add_right _ _) (ih h)

/-! ## How many there are -/

mutual
theorem length_numbered {scope : Scope} {start : DeclId} {a : Surroundings} : ∀ node : Node,
    (numbered scope start node).length = (node.entries a).length
  | .ofClass header shape members => by
    rw [numbered, Node.entries, List.length_cons, List.length_cons, length_numberedAll members]
  | .ofFunction header shape => by rw [numbered, Node.entries, List.length_singleton]; rfl
theorem length_numberedAll {scope : Scope} {start : DeclId} {a : Surroundings} :
    ∀ nodes : List Node, (numberedAll scope start nodes).length = (entriesOf a nodes).length
  | [] => by rw [numberedAll, entriesOf]; rfl
  | node :: rest => by
    rw [numberedAll, entriesOf, List.length_append, List.length_append, length_numbered node,
      length_numberedAll rest]
end

/-- There are as many numbered declarations of some files as the files list. -/
theorem length_numberedFiles (files : List SourceFile) :
    (numberedFiles start files).length = (listing files).length := by
  induction files generalizing start with
  | nil => rfl
  | cons file files ih =>
    have hfile : (numberedAll (.ofFile file) start file.declarations).length =
        file.entries.length := length_numberedAll file.declarations
    rw [numberedFiles, listing, List.flatMap_cons, List.length_append, List.length_append, ih,
      hfile]
    rfl

end BoundaryGen.Snapshot
