-- Where declarations stand in their files, and the order in which a snapshot takes them: files by
-- their paths, and every declaration before its members and these before what stands behind it. The
-- numbers of a snapshot count the declarations in this order, and an error is about the first of
-- them that has no name.
import Mathlib
import BoundaryGen.Proofs.Snapshot.Numbering

namespace BoundaryGen

/-! ## Addresses -/

/-- The way to a declaration from the outside in: for everything around it and at last for itself,
how many stand before. Addresses are compared number by number, so everything that is around a
declaration comes before it. -/
abbrev Address := List Nat

namespace Node

def members : Node → List Node
  | .ofClass _ _ members => members
  | .ofFunction _ _ => []

def shape : Node → Shape
  | .ofClass _ shape _ => .class_ shape
  | .ofFunction _ shape => .function shape

/-- What stands at an address inside a declaration, which has the empty address itself. -/
def at? : Node → Address → Option Node
  | node, [] => some node
  | node, i :: rest => node.members[i]? >>= (·.at? rest)

end Node

/-- What stands at an address among some declarations. -/
def nodeAt? (nodes : List Node) : Address → Option Node
  | [] => none
  | i :: rest => nodes[i]? >>= (·.at? rest)

/-- What stands at an address in some files. The first number of the address is that of the file. -/
def standsAt? (files : List SourceFile) : Address → Option (SourceFile × Node)
  | [] => none
  | k :: rest => do
    let file ← files[k]?
    return (file, ← nodeAt? file.declarations rest)

theorem standsAt?_cons_eq_some_iff {files : List SourceFile} {k : Nat} {a : Address}
    {file : SourceFile} {node : Node} : standsAt? files (k :: a) = some (file, node) ↔
      files[k]? = some file ∧ nodeAt? file.declarations a = some node := by
  simp only [standsAt?, Option.bind_eq_bind, Option.bind_eq_some_iff, Option.pure_def,
    Option.some.injEq, Prod.mk.injEq]
  constructor
  · rintro ⟨file, hfile, node, hnode, rfl, rfl⟩
    exact ⟨hfile, hnode⟩
  · rintro ⟨hfile, hnode⟩
    exact ⟨file, hfile, node, hnode, rfl, rfl⟩

/-- All addresses at which something stands, in their order. -/
structure InPreorder (stands : Address → Bool) (addresses : List Address) : Prop where
  complete : ∀ a, a ∈ addresses ↔ stands a
  sorted : addresses.Pairwise (· < ·)

/-- Some files in the order of their paths. Files of one path keep their order. -/
structure InPathOrder (files ordered : List SourceFile) : Prop where
  sorted : ordered.Pairwise (·.path ≤ ·.path)
  stable : ∀ path, ordered.filter (·.path = path) = files.filter (·.path = path)

/-- A declaration tells what stands in a file of a path and a package. -/
structure Declaration.Tells (d : Declaration) (path package : String) (node : Node) : Prop where
  simpleName : d.simpleName = node.header.name
  package : d.package = package
  location : d.location =
    { file := path, line := node.header.line, column := node.header.column }
  annotations : d.annotations = node.header.annotations
  modifiers : d.modifiers = node.header.modifiers
  shape : d.shape = node.shape

/-- The error is about the first declaration of some files that has no name. -/
def FirstUnnamed (files : List SourceFile) (e : Unnamed) : Prop :=
  ∃ a file node, standsAt? files a = some (file, node) ∧ node.header.name = "" ∧
    e = { path := file.path, line := node.header.line } ∧
    ∀ b < a, ∀ earlier ∈ standsAt? files b, earlier.2.header.name ≠ ""

namespace Snapshot

/-- The declarations of a snapshot are those that stand at some addresses, under the numbers of
their places. What stands in a class has that class as its parent and is named after it, and what
stands in a file directly has no parent and is named after the package. A dot joins the two names,
unless the first one is empty. -/
structure Numbers (s : Snapshot) (files : List SourceFile) (addresses : List Address) : Prop where
  size : s.declarations.size = addresses.length
  tells : ∀ {i a}, addresses[i]? = some a → ∃ file node d,
    standsAt? files a = some (file, node) ∧ s.get? i = some d ∧ d.id = i ∧
      d.Tells file.path file.package node
  topLevel : ∀ {i a d}, addresses[i]? = some a → s.get? i = some d → a.length ≤ 2 →
    d.parent = none ∧ d.qualifiedName =
      if d.package = "" then d.simpleName else d.package ++ "." ++ d.simpleName
  inside : ∀ {i a d}, addresses[i]? = some a → s.get? i = some d → 2 < a.length →
    ∃ p < i, ∃ c, addresses[p]? = some a.dropLast ∧ d.parent = some p ∧ s.get? p = some c ∧
      c.class?.isSome ∧ d.qualifiedName =
        if c.qualifiedName = "" then d.simpleName else c.qualifiedName ++ "." ++ d.simpleName

end Snapshot

/-! ## The walk through the source -/

/-- The addresses inside the first of some things, and then those inside the others. -/
def graft (first others : List Address) : List Address :=
  first.map (0 :: ·) ++ others.map (·.modifyHead (· + 1))

mutual
/-- The addresses inside a declaration, in the order of the walk. -/
def Node.addresses : Node → List Address
  | .ofClass _ _ members => [] :: addressesAmong members
  | .ofFunction _ _ => [[]]
/-- The addresses among some declarations, in the order of the walk. -/
def addressesAmong : List Node → List Address
  | [] => []
  | node :: rest => graft node.addresses (addressesAmong rest)
end

/-- The addresses in some files, in the order of the walk. -/
def addressesIn : List SourceFile → List Address
  | [] => []
  | file :: files => graft (addressesAmong file.declarations) (addressesIn files)

section Graft

variable {first others : List Address} {a : Address} {i : Nat}

theorem nil_mem_graft : [] ∈ graft first others ↔ [] ∈ others := by
  simp [graft, List.modifyHead_eq_nil_iff]

theorem zero_cons_mem_graft : 0 :: a ∈ graft first others ↔ a ∈ first := by
  have hothers : ∀ b ∈ others, b.modifyHead (· + 1) ≠ 0 :: a := by
    rintro (_ | ⟨j, b⟩) - h <;> simp at h
  simpa [graft] using fun b hb h => absurd h (hothers b hb)

theorem succ_cons_mem_graft : (i + 1) :: a ∈ graft first others ↔ i :: a ∈ others := by
  have hothers : ∀ b : Address, b.modifyHead (· + 1) = (i + 1) :: a ↔ b = i :: a := by
    rintro (_ | ⟨j, b⟩) <;> simp
  simp [graft, hothers]

theorem modifyHead_lt {a b : Address} (h : a < b) (hb : b ≠ []) :
    a.modifyHead (· + 1) < b.modifyHead (· + 1) := by
  obtain ⟨j, b, rfl⟩ := List.exists_cons_of_ne_nil hb
  cases a with
  | nil => exact List.nil_lt_cons _ _
  | cons i a =>
    rw [List.cons_lt_cons_iff] at h
    simpa [List.cons_lt_cons_iff] using h

theorem pairwise_graft (hfirst : first.Pairwise (· < ·)) (hothers : others.Pairwise (· < ·))
    (hne : [] ∉ others) : (graft first others).Pairwise (· < ·) := by
  refine List.pairwise_append.mpr ⟨?_, ?_, ?_⟩
  · rw [List.pairwise_map]
    exact hfirst.imp fun h => List.cons_lt_cons_iff.mpr (Or.inr ⟨rfl, h⟩)
  · rw [List.pairwise_map]
    exact hothers.imp_of_mem fun _ hb h => modifyHead_lt h fun hnil => hne (hnil ▸ hb)
  · simp only [List.mem_map]
    rintro _ ⟨a, -, rfl⟩ _ ⟨_ | ⟨j, b⟩, hb, rfl⟩
    · exact absurd hb hne
    · exact List.cons_lt_cons_iff.mpr (Or.inl (Nat.succ_pos j))

end Graft

theorem InPreorder.graft {stands stands' all : Address → Bool} {first others : List Address}
    (h : InPreorder stands first) (h' : InPreorder stands' others) (hnil : all [] = false)
    (hnil' : stands' [] = false) (hzero : ∀ a, all (0 :: a) = stands a)
    (hsucc : ∀ i a, all ((i + 1) :: a) = stands' (i :: a)) :
    InPreorder all (graft first others) where
  complete a := by
    match a with
    | [] => rw [nil_mem_graft, h'.complete, hnil, hnil']
    | 0 :: a => rw [zero_cons_mem_graft, h.complete, hzero]
    | (i + 1) :: a => rw [succ_cons_mem_graft, h'.complete, hsucc]
  sorted := by
    refine pairwise_graft h.sorted h'.sorted fun hmem => ?_
    rw [h'.complete, hnil'] at hmem
    cases hmem

mutual
theorem Node.inPreorder_addresses : ∀ node : Node,
    InPreorder (fun a => (node.at? a).isSome) node.addresses
  | .ofClass header shape members => by
    have h := inPreorder_addressesAmong members
    refine ⟨fun a => ?_, ?_⟩
    · cases a with
      | nil => simp [Node.addresses, Node.at?]
      | cons i a =>
        rw [Node.addresses, List.mem_cons, h.complete]
        simp [Node.at?, nodeAt?, Node.members]
    · refine List.pairwise_cons.mpr ⟨fun a ha => ?_, h.sorted⟩
      cases a with
      | nil => cases (h.complete []).mp ha
      | cons i a => exact List.nil_lt_cons i a
  | .ofFunction header shape => by
    refine ⟨fun a => ?_, List.pairwise_singleton _ _⟩
    cases a <;> simp [Node.addresses, Node.at?, Node.members]
theorem inPreorder_addressesAmong : ∀ nodes : List Node,
    InPreorder (fun a => (nodeAt? nodes a).isSome) (addressesAmong nodes)
  | [] => by
    refine ⟨fun a => ?_, List.Pairwise.nil⟩
    cases a <;> simp [addressesAmong, nodeAt?]
  | node :: rest =>
    node.inPreorder_addresses.graft (inPreorder_addressesAmong rest) rfl rfl (fun _ => rfl)
      fun _ _ => rfl
end

/-- The walk meets everything that stands in some files, in the order of the addresses. -/
theorem inPreorder_addressesIn (files : List SourceFile) :
    InPreorder (fun a => (standsAt? files a).isSome) (addressesIn files) := by
  induction files with
  | nil =>
    refine ⟨fun a => ?_, List.Pairwise.nil⟩
    cases a <;> simp [addressesIn, standsAt?]
  | cons file files ih =>
    refine (inPreorder_addressesAmong file.declarations).graft ih rfl rfl (fun a => ?_)
      fun _ _ => rfl
    cases h : nodeAt? file.declarations a <;> simp [standsAt?, h]

/-! ## Declarations along the walk -/

namespace Snapshot

/-- The parent of a declaration at an address of a walk: the given one at the outermost addresses,
and else the number of the address around it. -/
def ParentAt (depth : Nat) (parent : Option DeclId) (start : DeclId) (addresses : List Address)
    (a : Address) (d : Declaration) : Prop :=
  (a.length ≤ depth → d.parent = parent) ∧
    (depth < a.length → ∃ p, addresses[p]? = some a.dropLast ∧ d.parent = some (start + p))

/-- Declarations numbered from `start` on follow a walk: each of them tells what stands at its
address, and its parent is what stands around it. -/
def Follows (depth : Nat) (parent : Option DeclId) (start : DeclId)
    (tells : Declaration → Address → Prop) (addresses : List Address) (ds : List Declaration) :
    Prop :=
  List.Forall₂ (fun a d => tells d a ∧ ParentAt depth parent start addresses a d) addresses ds

theorem Follows.graft {depth : Nat} {parent : Option DeclId} {start : DeclId}
    {tells tells' all : Declaration → Address → Prop} {first others : List Address}
    {ds ds' : List Declaration} (h : Follows depth parent start tells first ds)
    (h' : Follows (depth + 1) parent (start + ds.length) tells' others ds')
    (hzero : ∀ d a, tells d a → all d (0 :: a))
    (hsucc : ∀ d a, tells' d a → all d (a.modifyHead (· + 1))) :
    Follows (depth + 1) parent start all (graft first others) (ds ++ ds') := by
  have hlength : first.length = ds.length := List.Forall₂.length_eq h
  refine List.rel_append ?_ ?_
  · refine List.forall₂_map_left_iff.mpr (List.Forall₂.imp ?_ h)
    rintro a d ⟨htells, htop, hdeep⟩
    refine ⟨hzero d a htells, fun hle => htop (Nat.le_of_succ_le_succ hle), fun hlt => ?_⟩
    have hlt : depth < a.length := Nat.lt_of_succ_lt_succ hlt
    obtain ⟨p, hp, hparent⟩ := hdeep hlt
    refine ⟨p, ?_, hparent⟩
    have hne : a ≠ [] := List.ne_nil_of_length_pos (Nat.zero_lt_of_lt hlt)
    rw [BoundaryGen.graft, List.getElem?_append_left, List.getElem?_map, hp,
      List.dropLast_cons_of_ne_nil hne]
    · rfl
    · rw [List.length_map]
      exact (List.getElem?_eq_some_iff.mp hp).1
  · refine List.forall₂_map_left_iff.mpr (List.Forall₂.imp ?_ h')
    rintro a d ⟨htells, htop, hdeep⟩
    rw [ParentAt, List.length_modifyHead]
    refine ⟨hsucc d a htells, htop, fun hlt => ?_⟩
    obtain ⟨p, hp, hparent⟩ := hdeep hlt
    refine ⟨ds.length + p, ?_, by rw [hparent, Nat.add_assoc]⟩
    rw [BoundaryGen.graft, List.getElem?_append_right (by simp [hlength]), List.length_map, hlength,
      Nat.add_sub_cancel_left, List.getElem?_map, hp, ← List.modifyHead_dropLast]
    rfl

mutual
theorem follows_numbered (scope : Scope) (start : DeclId) : ∀ node : Node,
    Follows 0 scope.parent start
      (fun d a => ∃ n ∈ node.at? a, d.Tells scope.path scope.package n)
      node.addresses (numbered scope start node)
  | .ofClass header shape members => by
    rw [Node.addresses, numbered]
    refine List.Forall₂.cons ⟨⟨_, rfl, rfl, rfl, rfl, rfl, rfl, rfl⟩, fun _ => rfl, nofun⟩ ?_
    refine List.Forall₂.imp ?_
      (follows_numberedAll (scope.inside start header) (start + 1) members)
    rintro (_ | ⟨i, a⟩) d ⟨⟨n, hn, htells⟩, htop, hdeep⟩
    · cases hn
    · refine ⟨⟨n, hn, htells⟩, nofun, fun _ => ?_⟩
      -- A member stands in the class itself, and all else in what stands there in the walk.
      rcases Nat.lt_or_ge 1 (i :: a).length with hlt | hle
      · obtain ⟨p, hp, hparent⟩ := hdeep hlt
        exact ⟨p + 1, hp, by rw [hparent, Nat.add_right_comm, Nat.add_assoc]⟩
      · have hnil : a = [] := List.eq_nil_of_length_eq_zero (by simpa using hle)
        exact ⟨0, by rw [hnil]; rfl, htop hle⟩
  | .ofFunction header shape => by
    rw [Node.addresses, numbered]
    exact .cons ⟨⟨_, rfl, rfl, rfl, rfl, rfl, rfl, rfl⟩, fun _ => rfl, nofun⟩ .nil
theorem follows_numberedAll (scope : Scope) (start : DeclId) : ∀ nodes : List Node,
    Follows 1 scope.parent start
      (fun d a => ∃ n ∈ nodeAt? nodes a, d.Tells scope.path scope.package n)
      (addressesAmong nodes) (numberedAll scope start nodes)
  | [] => by
    rw [addressesAmong, numberedAll]
    exact .nil
  | node :: rest => by
    rw [addressesAmong, numberedAll]
    refine (follows_numbered scope start node).graft (follows_numberedAll scope _ rest)
      (fun _ _ h => h) ?_
    rintro d (_ | ⟨i, a⟩) ⟨n, hn, htells⟩
    · cases hn
    · exact ⟨n, hn, htells⟩
end

theorem follows_numberedFiles (start : DeclId) (files : List SourceFile) :
    Follows 2 none start
      (fun d a => ∃ e ∈ standsAt? files a, d.Tells e.1.path e.1.package e.2)
      (addressesIn files) (numberedFiles start files) := by
  induction files generalizing start with
  | nil => exact .nil
  | cons file files ih =>
    refine (follows_numberedAll (.ofFile file) start file.declarations).graft (ih _) ?_ ?_
    · rintro d a ⟨n, hn, htells⟩
      exact ⟨(file, n), by simp [standsAt?, Option.mem_def.mp hn], htells⟩
    · rintro d (_ | ⟨i, a⟩) ⟨e, he, htells⟩
      · cases he
      · exact ⟨e, he, htells⟩

theorem exists_getElem?_of_forall₂ {α β : Type} {R : α → β → Prop} {as : List α} {bs : List β}
    (h : List.Forall₂ R as bs) {i : Nat} {a : α} (ha : as[i]? = some a) :
    ∃ b, bs[i]? = some b ∧ R a b := by
  obtain ⟨hlt, rfl⟩ := List.getElem?_eq_some_iff.mp ha
  have hlt' : i < bs.length := h.length_eq ▸ hlt
  exact ⟨bs[i], List.getElem?_eq_getElem hlt', h.get hlt hlt'⟩

theorem qualify_eq (scope name : String) :
    qualify scope name = if scope = "" then name else scope ++ "." ++ name := by
  simp only [qualify, String.isEmpty_iff]

/-- The declarations of a snapshot follow the walk through its files. -/
theorem numbers_ofFiles {files : List SourceFile} {s : Snapshot} (hs : ofFiles files = .ok s) :
    s.Numbers (files.mergeSort fun a b => a.path ≤ b.path)
      (addressesIn (files.mergeSort fun a b => a.path ≤ b.path)) := by
  have hw := (lists_ofFiles hs).wellNumbered
  have hfollows := follows_numberedFiles 0 (files.mergeSort fun a b => a.path ≤ b.path)
  rw [← declarations_ofFiles hs] at hfollows
  have hget {i a} (ha : (addressesIn (files.mergeSort fun a b => a.path ≤ b.path))[i]? = some a) :=
    exists_getElem?_of_forall₂ hfollows ha
  refine ⟨?_, fun {i a} ha => ?_, fun {i a d} ha hd hle => ?_, fun {i a d} ha hd hlt => ?_⟩
  · rw [← Array.length_toList]
    exact (List.Forall₂.length_eq hfollows).symm
  · obtain ⟨d, hd, ⟨⟨file, node⟩, hstands, htells⟩, -⟩ := hget ha
    rw [Array.getElem?_toList] at hd
    exact ⟨file, node, d, hstands, hd, hw.id_eq hd, htells⟩
  · obtain ⟨d', hd', -, htop, -⟩ := hget ha
    rw [Array.getElem?_toList] at hd'
    obtain rfl := Option.some.inj (hd.symm.trans hd')
    exact ⟨htop hle, (hw.topLevel hd (htop hle)).trans (qualify_eq _ _)⟩
  · obtain ⟨d', hd', -, -, hdeep⟩ := hget ha
    rw [Array.getElem?_toList] at hd'
    obtain rfl := Option.some.inj (hd.symm.trans hd')
    obtain ⟨p, hp, hparent⟩ := hdeep hlt
    rw [Nat.zero_add] at hparent
    obtain ⟨hlt, c, hc, hclass, hname⟩ := hw.parent hd hparent
    exact ⟨p, hlt, c, hp, hparent, hc, hclass, hname.trans (qualify_eq _ _)⟩

/-! ## Declarations without a name -/

/-- The error for a declaration when it has no name. -/
def fault? (path : String) (node : Node) : Option Unnamed :=
  if node.header.name.isEmpty then some { path, line := node.header.line } else none

/-- The error for what stands at an address in some files, when it has no name. -/
def faultAt? (files : List SourceFile) (a : Address) : Option Unnamed :=
  standsAt? files a >>= fun e => fault? e.1.path e.2

/-- A result fails with the first fault, and succeeds when there is none. -/
def FailsFirst (faults : Address → Option Unnamed) : Except Unnamed Snapshot → Prop
  | .ok _ => ∀ a, faults a = none
  | .error e => ∃ a, faults a = some e ∧ ∀ b < a, faults b = none

theorem FailsFirst.graft {faults faults' all : Address → Option Unnamed}
    {result : Except Unnamed Snapshot} {next : Snapshot → Except Unnamed Snapshot}
    (h : FailsFirst faults result) (h' : ∀ s, FailsFirst faults' (next s)) (hnil : all [] = none)
    (hnil' : faults' [] = none) (hzero : ∀ a, all (0 :: a) = faults a)
    (hsucc : ∀ i a, all ((i + 1) :: a) = faults' (i :: a)) :
    FailsFirst all (result >>= next) := by
  cases result with
  | error e =>
    obtain ⟨a, ha, hfirst⟩ := h
    refine ⟨0 :: a, (hzero a).trans ha, ?_⟩
    rintro (_ | ⟨j, b⟩) hlt
    · exact hnil
    · rcases List.cons_lt_cons_iff.mp hlt with hj | ⟨rfl, hb⟩
      · cases hj
      · exact (hzero b).trans (hfirst b hb)
  | ok s =>
    have hnone : ∀ a, all (0 :: a) = none := fun a => (hzero a).trans (h a)
    have h' := h' s
    change FailsFirst all (next s)
    cases hnext : next s with
    | ok s' =>
      rw [hnext] at h'
      rintro (_ | ⟨_ | j, b⟩)
      · exact hnil
      · exact hnone b
      · exact (hsucc j b).trans (h' (j :: b))
    | error e =>
      rw [hnext] at h'
      obtain ⟨a, ha, hfirst⟩ := h'
      cases a with
      | nil => rw [hnil'] at ha; cases ha
      | cons i a =>
        refine ⟨(i + 1) :: a, (hsucc i a).trans ha, ?_⟩
        rintro (_ | ⟨_ | j, b⟩) hlt
        · exact hnil
        · exact hnone b
        · refine (hsucc j b).trans (hfirst (j :: b) ?_)
          simpa [List.cons_lt_cons_iff] using hlt

mutual
theorem failsFirst_addNode {scope : Scope} : ∀ (node : Node) (s : Snapshot),
    FailsFirst (fun a => node.at? a >>= fault? scope.path) (addNode scope node s)
  | .ofClass header shape members, s => by
    rw [addNode]
    split
    · rename_i hname
      exact ⟨[], if_pos hname, fun b hlt => absurd hlt (List.not_lt_nil b)⟩
    · rename_i hname
      have hsame : (fun a => (Node.ofClass header shape members).at? a >>= fault? scope.path) =
          fun a => nodeAt? members a >>= fault? scope.path := by
        funext a
        cases a with
        | nil => exact if_neg hname
        | cons i a => rfl
      rw [hsame]
      exact failsFirst_addNodes members _
  | .ofFunction header shape, s => by
    rw [addNode]
    split
    · rename_i hname
      exact ⟨[], if_pos hname, fun b hlt => absurd hlt (List.not_lt_nil b)⟩
    · rename_i hname
      rintro (_ | ⟨i, a⟩)
      · exact if_neg hname
      · rfl
theorem failsFirst_addNodes {scope : Scope} : ∀ (nodes : List Node) (s : Snapshot),
    FailsFirst (fun a => nodeAt? nodes a >>= fault? scope.path) (addNodes scope nodes s)
  | [], s => by
    rintro (_ | ⟨i, a⟩) <;> rfl
  | node :: rest, s => by
    rw [addNodes]
    exact (failsFirst_addNode node s).graft (failsFirst_addNodes rest) rfl rfl (fun _ => rfl)
      fun _ _ => rfl
end

theorem failsFirst_addFiles (files : List SourceFile) (s : Snapshot) :
    FailsFirst (faultAt? files) (files.foldlM addFile s) := by
  induction files generalizing s with
  | nil =>
    rintro (_ | ⟨i, a⟩) <;> rfl
  | cons file files ih =>
    rw [List.foldlM_cons]
    refine FailsFirst.graft (failsFirst_addNodes file.declarations _) ih rfl rfl (fun a => ?_)
      fun _ _ => rfl
    cases h : nodeAt? file.declarations a <;> simp [faultAt?, standsAt?, h, Scope.ofFile]

theorem failsFirst_ofFiles (files : List SourceFile) :
    FailsFirst (faultAt? (files.mergeSort fun a b => a.path ≤ b.path)) (ofFiles files) := by
  have h := failsFirst_addFiles (files.mergeSort fun a b => a.path ≤ b.path) {}
  rw [ofFiles]
  cases hadd : (files.mergeSort fun a b => a.path ≤ b.path).foldlM addFile {} <;>
    (rw [hadd] at h; exact h)

/-- A result that fails with the first fault fails with no other error. -/
theorem FailsFirst.eq_error_iff {faults : Address → Option Unnamed}
    {result : Except Unnamed Snapshot} (h : FailsFirst faults result) (e : Unnamed) :
    result = .error e ↔ ∃ a, faults a = some e ∧ ∀ b < a, faults b = none := by
  constructor
  · rintro rfl
    exact h
  · rintro ⟨a, ha, hfirst⟩
    cases result with
    | ok s =>
      rw [h a] at ha
      cases ha
    | error e' =>
      obtain ⟨a', ha', hfirst'⟩ := h
      rcases lt_trichotomy a a' with hlt | rfl | hlt
      · rw [hfirst' a hlt] at ha
        cases ha
      · rw [Option.some.inj (ha.symm.trans ha')]
      · rw [hfirst a' hlt] at ha'
        cases ha'

theorem fault?_eq_none_iff {path : String} {node : Node} :
    fault? path node = none ↔ node.header.name ≠ "" := by
  simp [fault?]

theorem fault?_eq_some_iff {path : String} {node : Node} {e : Unnamed} :
    fault? path node = some e ↔
      node.header.name = "" ∧ e = { path, line := node.header.line } := by
  rw [fault?, Option.ite_none_right_eq_some, Option.some.injEq, String.isEmpty_iff,
    eq_comm (a := e)]

theorem firstUnnamed_iff {files : List SourceFile} {e : Unnamed} :
    FirstUnnamed files e ↔
      ∃ a, faultAt? files a = some e ∧ ∀ b < a, faultAt? files b = none := by
  simp only [FirstUnnamed, faultAt?, Option.bind_eq_bind, Option.bind_eq_some_iff,
    Option.bind_eq_none_iff, fault?_eq_some_iff, fault?_eq_none_iff, Prod.exists, Option.mem_def]
  constructor
  · rintro ⟨a, file, node, hstands, hname, he, hfirst⟩
    exact ⟨a, ⟨file, node, hstands, hname, he⟩, hfirst⟩
  · rintro ⟨a, ⟨file, node, hstands, hname, he⟩, hfirst⟩
    exact ⟨a, file, node, hstands, hname, he, hfirst⟩

/-! ## Files in the order of their paths -/

theorem inPathOrder_mergeSort (files : List SourceFile) :
    InPathOrder files (files.mergeSort fun a b => a.path ≤ b.path) where
  sorted := by
    have htrans : ∀ a b c : SourceFile, decide (a.path ≤ b.path) = true →
        decide (b.path ≤ c.path) = true → decide (a.path ≤ c.path) = true := by
      simpa using fun _ _ _ => le_trans
    have htotal : ∀ a b : SourceFile,
        (decide (a.path ≤ b.path) || decide (b.path ≤ a.path)) = true := by
      simpa using fun _ _ => le_total _ _
    simpa using List.pairwise_mergeSort htrans htotal files
  stable path := by
    -- Files of one path are in order already, so sorting keeps them one behind the other.
    have hsorted : (files.filter (·.path = path)).Pairwise fun a b => decide (a.path ≤ b.path) := by
      refine List.pairwise_of_forall_mem_list fun a ha b hb => ?_
      simp only [List.mem_filter, decide_eq_true_eq] at ha hb ⊢
      rw [ha.2, hb.2]
    have hsublist := (List.sublist_mergeSort (by simpa using fun _ _ _ => le_trans)
      (by simpa using fun _ _ => le_total _ _) hsorted List.filter_sublist).filter (·.path = path)
    rw [List.filter_filter] at hsublist
    simp only [Bool.and_self] at hsublist
    exact (hsublist.eq_of_length
      ((List.mergeSort_perm files _).filter (·.path = path)).length_eq.symm).symm

/-! ## The law of the walk -/

/-- A snapshot lists its files in preorder: the files in the order of their paths, those of one path
as they come, and in a file every declaration before its members. There is an error exactly when
some declaration at any depth has no name, and then it is about the first such one. Else the numbers
are the places in this order, a parent is the class around a declaration, and a qualified name joins
the name to that of the parent, or of the package. -/
theorem snapshots_list_their_files_in_preorder (files : List SourceFile) :
    ∃ ordered addresses, InPathOrder files ordered ∧
      InPreorder (fun a => (standsAt? ordered a).isSome) addresses ∧
      ((∃ e, ofFiles files = .error e) ↔
        ∃ file ∈ files, ∃ a, ∃ node ∈ nodeAt? file.declarations a, node.header.name = "") ∧
      (∀ e, ofFiles files = .error e ↔ FirstUnnamed ordered e) ∧
      ∀ s, ofFiles files = .ok s → s.Numbers ordered addresses := by
  have herror (e : Unnamed) := (failsFirst_ofFiles files).eq_error_iff e
  simp only [← firstUnnamed_iff] at herror
  refine ⟨_, _, inPathOrder_mergeSort files, inPreorder_addressesIn _, ⟨?_, ?_⟩, herror,
    fun s hs => numbers_ofFiles hs⟩
  · rintro ⟨e, he⟩
    obtain ⟨_ | ⟨k, a⟩, file, node, hstands, hname, -, -⟩ := (herror e).mp he
    · cases hstands
    · obtain ⟨hfile, hnode⟩ := standsAt?_cons_eq_some_iff.mp hstands
      exact ⟨file, List.mem_mergeSort.mp (List.mem_of_getElem? hfile), a, node, hnode, hname⟩
  · rintro ⟨file, hfile, a, node, hnode, hname⟩
    cases hs : ofFiles files with
    | error e => exact ⟨e, rfl⟩
    | ok s =>
      have hnone := failsFirst_ofFiles files
      rw [hs] at hnone
      have hfile : file ∈ files.mergeSort fun a b => a.path ≤ b.path := List.mem_mergeSort.mpr hfile
      obtain ⟨k, hk⟩ := List.mem_iff_getElem?.mp hfile
      have hnamed := hnone (k :: a)
      rw [faultAt?, standsAt?_cons_eq_some_iff.mpr ⟨hk, hnode⟩] at hnamed
      exact absurd hname (fault?_eq_none_iff.mp hnamed)

end Snapshot

end BoundaryGen
