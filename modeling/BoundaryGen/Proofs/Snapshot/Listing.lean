-- What a snapshot holds of its files: every declaration once, before its
-- members and in the order of the files, under the number of its place.
import Mathlib
import BoundaryGen.Proofs.Result
import BoundaryGen.Snapshot.Query

namespace BoundaryGen

/-! ## Declarations without numbers -/

/-- A declaration as the source tells it. The class that it stands in is told by its place in the
source. -/
structure SourceEntry where
  simpleName : String
  qualifiedName : String
  package : String
  parent : Option Location
  location : Location
  annotations : List AnnotationUse
  modifiers : List Modifier
  shape : Shape

namespace SourceEntry

def isNamed (e : SourceEntry) : Bool := !e.simpleName.isEmpty

def isClass (e : SourceEntry) : Bool :=
  match e.shape with
  | .class_ _ => true
  | .function _ => false

def superTypeCount (e : SourceEntry) : Nat :=
  match e.shape with
  | .class_ shape => shape.superTypes.length
  | .function _ => 0

/-- The place of the declaration, once for each annotation of a name. -/
def marks (name : String) (e : SourceEntry) : List Location :=
  (e.annotations.filter (·.name = name)).map fun _ => e.location

end SourceEntry

/-- What is around a declaration in its file. -/
structure Surroundings where
  path : String
  package : String
  parent : Option Location
  name : String

namespace Surroundings

def ofFile (file : SourceFile) : Surroundings where
  path := file.path
  package := file.package
  parent := none
  name := file.package

def location (a : Surroundings) (header : Header) : Location where
  file := a.path
  line := header.line
  column := header.column

def entry (a : Surroundings) (header : Header) (shape : Shape) : SourceEntry where
  simpleName := header.name
  qualifiedName := Snapshot.qualify a.name header.name
  package := a.package
  parent := a.parent
  location := a.location header
  annotations := header.annotations
  modifiers := header.modifiers
  shape

/-- What is around the members of a class. -/
def inside (a : Surroundings) (header : Header) : Surroundings where
  path := a.path
  package := a.package
  parent := some (a.location header)
  name := Snapshot.qualify a.name header.name

end Surroundings

/-! ## Listings -/

mutual
/-- A declaration and everything inside it. -/
def Node.entries (a : Surroundings) : Node → List SourceEntry
  | .ofClass header shape members =>
    a.entry header (.class_ shape) :: entriesOf (a.inside header) members
  | .ofFunction header shape => [a.entry header (.function shape)]
/-- Some declarations and everything inside them. -/
def entriesOf (a : Surroundings) : List Node → List SourceEntry
  | [] => []
  | node :: rest => node.entries a ++ entriesOf a rest
end

def SourceFile.entries (file : SourceFile) : List SourceEntry :=
  entriesOf (.ofFile file) file.declarations

/-- Every declaration of some files. -/
def listing (files : List SourceFile) : List SourceEntry := files.flatMap SourceFile.entries

namespace Declaration

/-- A declaration without its numbers, where `place?` tells the place of a number. -/
def entry (place? : DeclId → Option Location) (d : Declaration) : SourceEntry where
  simpleName := d.simpleName
  qualifiedName := d.qualifiedName
  package := d.package
  parent := d.parent.bind place?
  location := d.location
  annotations := d.annotations
  modifiers := d.modifiers
  shape := d.shape

/-- The number of the declaration, once for each annotation of a name. -/
def marks (name : String) (d : Declaration) : List DeclId :=
  (d.annotations.filter (·.name = name)).map fun _ => d.id

/-- Whether the declaration is a class of a qualified name. -/
def isClassNamed (name : String) (d : Declaration) : Bool :=
  d.class?.isSome && d.qualifiedName = name

theorem isClassNamed_iff {name : String} {d : Declaration} :
    d.isClassNamed name ↔ d.class?.isSome ∧ d.qualifiedName = name := by
  simp only [isClassNamed, Bool.and_eq_true, decide_eq_true_eq]

end Declaration

namespace Snapshot

/-- The place of a declaration in the source. -/
def place? (s : Snapshot) (id : DeclId) : Option Location := (s.get? id).map (·.location)

/-- The declarations of a snapshot without their numbers. -/
def entries (s : Snapshot) : List SourceEntry := s.declarations.toList.map (·.entry s.place?)

/-- The declarations that carry an annotation, in the order of their numbers. -/
def carriers (s : Snapshot) (name : String) : List DeclId :=
  s.declarations.toList.flatMap (·.marks name)

/-! ## What holds of every snapshot -/

/-- Numbers are places, every parent is a class before its members, and a class is found under its
name, the last one first. -/
structure WellNumbered (s : Snapshot) : Prop where
  id_eq : ∀ {i d}, s.get? i = some d → d.id = i
  named : ∀ {i d}, s.get? i = some d → d.simpleName ≠ ""
  topLevel : ∀ {i d}, s.get? i = some d → d.parent = none →
    d.qualifiedName = qualify d.package d.simpleName
  parent : ∀ {i d p}, s.get? i = some d → d.parent = some p → p < i ∧
    ∃ c, s.get? p = some c ∧ c.class?.isSome ∧
      d.qualifiedName = qualify c.qualifiedName d.simpleName
  findClass : ∀ name, s.findClass name =
    (s.declarations.toList.reverse.find? (·.isClassNamed name)).map (·.id)

/-- A scope inside a snapshot: its class stands there under the name of the scope. -/
structure Scope.Within (scope : Scope) (s : Snapshot) : Prop where
  parent : ∀ {p}, scope.parent = some p →
    ∃ c, s.get? p = some c ∧ c.class?.isSome ∧ c.qualifiedName = scope.name
  topLevel : scope.parent = none → scope.name = scope.package

/-- The annotations before they are sorted. -/
def Unsorted (s : Snapshot) : Prop := ∀ name, s.annotated name = s.carriers name

/-- A scope and what is around it tell the same. -/
structure Scope.Tells (scope : Scope) (s : Snapshot) (a : Surroundings) : Prop where
  path : a.path = scope.path
  package : a.package = scope.package
  name : a.name = scope.name
  parent : a.parent = scope.parent.bind s.place?

/-! ## Adding one declaration -/

theorem get?_eq_some_lt {s : Snapshot} {i : DeclId} {d : Declaration} (h : s.get? i = some d) :
    i < s.declarations.size := by
  rw [get?, Array.getElem?_eq_some_iff] at h
  exact h.1

/-- The declaration that `push` adds. -/
def pushed (s : Snapshot) (scope : Scope) (header : Header) (shape : Shape) : Declaration where
  id := s.declarations.size
  simpleName := header.name
  qualifiedName := qualify scope.name header.name
  package := scope.package
  parent := scope.parent
  location := { file := scope.path, line := header.line, column := header.column }
  annotations := header.annotations
  modifiers := header.modifiers
  shape

variable {s s' : Snapshot} {scope : Scope} {header : Header} {shape : Shape}

theorem declarations_push : (s.push scope header shape).declarations =
    s.declarations.push (s.pushed scope header shape) := rfl

theorem get?_push (i : DeclId) : (s.push scope header shape).get? i =
    if i = s.declarations.size then some (s.pushed scope header shape) else s.get? i := by
  rw [get?, declarations_push, Array.getElem?_push]
  rfl

theorem get?_push_of_some {i : DeclId} {d : Declaration} (h : s.get? i = some d) :
    (s.push scope header shape).get? i = some d := by
  rw [get?_push, if_neg (get?_eq_some_lt h).ne, h]

theorem get?_noteAnnotations (id : DeclId) (uses : List AnnotationUse)
    (table : OrderedMap String (List DeclId)) (name : String) :
    ((noteAnnotations id uses table).get? name).getD [] =
      (table.get? name).getD [] ++ (uses.filter (·.name = name)).map fun _ => id := by
  unfold noteAnnotations
  induction uses generalizing table with
  | nil => simp
  | cons use uses ih =>
    rw [List.foldl_cons, ih, OrderedMap.get?_insert]
    by_cases h : use.name = name
    · simp [h]
    · simp [h, Ne.symm h]

theorem Unsorted.push (h : Unsorted s) : Unsorted (s.push scope header shape) := by
  intro name
  rw [carriers, declarations_push, Array.toList_push, List.flatMap_append, ← carriers, ← h name,
    List.flatMap_singleton]
  exact get?_noteAnnotations s.declarations.size header.annotations s.annotatedTable name

theorem findClass_push (name : String) : (s.push scope header shape).findClass name =
    if (s.pushed scope header shape).isClassNamed name then some s.declarations.size
    else s.findClass name := by
  cases shape with
  | class_ shape =>
    simp only [findClass, push, OrderedMap.get?_insert, pushed, Declaration.isClassNamed,
      Declaration.class?, Option.isSome_some, Bool.true_and]
    exact if_congr (by simp [eq_comm]) rfl rfl
  | function shape => simp [findClass, push, pushed, Declaration.isClassNamed, Declaration.class?]

theorem WellNumbered.push (h : WellNumbered s) (hs : scope.Within s) (hn : header.name ≠ "") :
    WellNumbered (s.push scope header shape) where
  id_eq := by
    intro i d hd
    rw [get?_push] at hd
    split at hd
    · cases hd
      exact Eq.symm ‹_›
    · exact h.id_eq hd
  named := by
    intro i d hd
    rw [get?_push] at hd
    split at hd
    · cases hd
      exact hn
    · exact h.named hd
  topLevel := by
    intro i d hd hp
    rw [get?_push] at hd
    split at hd
    · cases hd
      rw [pushed, hs.topLevel hp]
    · exact h.topLevel hd hp
  parent := by
    intro i d p hd hp
    rw [get?_push] at hd
    split at hd
    · cases hd
      obtain ⟨c, hc, hclass, hname⟩ := hs.parent hp
      refine ⟨?_, c, get?_push_of_some hc, hclass, ?_⟩
      · exact ‹i = _› ▸ get?_eq_some_lt hc
      · rw [pushed, hname]
    · obtain ⟨hlt, c, hc, hclass, hname⟩ := h.parent hd hp
      exact ⟨hlt, c, get?_push_of_some hc, hclass, hname⟩
  findClass := by
    intro name
    rw [findClass_push, declarations_push, Array.toList_push, List.reverse_append,
      List.reverse_singleton, List.singleton_append, List.find?_cons, h.findClass name]
    split <;> simp_all [pushed]

/-! ## What later declarations leave alone -/

/-- What stands in one snapshot stands in another under its number. -/
def Keeps (s s' : Snapshot) : Prop := ∀ i d, s.get? i = some d → s'.get? i = some d

theorem Keeps.trans {s'' : Snapshot} (h : Keeps s s') (h' : Keeps s' s'') : Keeps s s'' :=
  fun i d hd => h' i d (h i d hd)

theorem keeps_push : Keeps s (s.push scope header shape) := fun _ _ => get?_push_of_some

theorem Keeps.place? (h : Keeps s s') {p : DeclId} {d : Declaration} (hd : s.get? p = some d) :
    s'.place? p = s.place? p := by
  rw [Snapshot.place?, Snapshot.place?, hd, h _ _ hd]

theorem Scope.Within.mono (hs : scope.Within s) (h : Keeps s s') : scope.Within s' where
  parent hp := by
    obtain ⟨c, hc, hclass, hname⟩ := hs.parent hp
    exact ⟨c, h _ _ hc, hclass, hname⟩
  topLevel := hs.topLevel

theorem Scope.Tells.mono {a : Surroundings} (ht : scope.Tells s a) (hs : scope.Within s)
    (h : Keeps s s') : scope.Tells s' a where
  path := ht.path
  package := ht.package
  name := ht.name
  parent := by
    rw [ht.parent]
    rcases hp : scope.parent with _ | p
    · rfl
    · obtain ⟨c, hc, -⟩ := hs.parent hp
      exact (h.place? hc).symm

theorem get?_of_mem {d : Declaration} (hd : d ∈ s.declarations.toList) :
    ∃ i, s.get? i = some d := by
  obtain ⟨i, hi⟩ := List.mem_iff_getElem?.mp hd
  exact ⟨i, by rw [get?, ← hi, Array.getElem?_toList]⟩

/-- A class is found under its own name. -/
theorem WellNumbered.of_findClass (hw : WellNumbered s) {name : String} {i : DeclId}
    (h : s.findClass name = some i) : ∃ d, s.get? i = some d ∧ d.isClassNamed name := by
  rw [hw.findClass, Option.map_eq_some_iff] at h
  obtain ⟨d, hfind, rfl⟩ := h
  obtain ⟨i, hi⟩ := get?_of_mem (List.mem_reverse.mp (List.mem_of_find?_eq_some hfind))
  exact ⟨d, by rw [hw.id_eq hi, hi], List.find?_some hfind⟩

theorem WellNumbered.entry_mono (hw : WellNumbered s) (h : Keeps s s') {d : Declaration}
    (hd : d ∈ s.declarations.toList) : d.entry s'.place? = d.entry s.place? := by
  obtain ⟨i, hi⟩ := get?_of_mem hd
  unfold Declaration.entry
  congr 1
  rcases hp : d.parent with _ | p
  · rfl
  · obtain ⟨-, c, hc, -⟩ := hw.parent hi hp
    exact h.place? hc

/-! ## Adding declarations with their members -/

/-- A scope of a snapshot whose declarations are numbered, and what is around it. -/
structure Stands (s : Snapshot) (scope : Scope) (a : Surroundings) : Prop where
  wellNumbered : WellNumbered s
  unsorted : Unsorted s
  within : scope.Within s
  tells : scope.Tells s a

/-- `s'` holds the entries `es` behind all that `s` holds. -/
structure Adds (s : Snapshot) (es : List SourceEntry) (s' : Snapshot) : Prop where
  keeps : Keeps s s'
  wellNumbered : WellNumbered s'
  unsorted : Unsorted s'
  entries : s'.entries = s.entries ++ es

theorem Adds.trans {s'' : Snapshot} {es es' : List SourceEntry} (h : Adds s es s')
    (h' : Adds s' es' s'') : Adds s (es ++ es') s'' where
  keeps := h.keeps.trans h'.keeps
  wellNumbered := h'.wellNumbered
  unsorted := h'.unsorted
  entries := by rw [h'.entries, h.entries, List.append_assoc]

theorem Adds.stands {a : Surroundings} {es : List SourceEntry} (h : Adds s es s')
    (hs : Stands s scope a) : Stands s' scope a where
  wellNumbered := h.wellNumbered
  unsorted := h.unsorted
  within := hs.within.mono h.keeps
  tells := hs.tells.mono hs.within h.keeps

theorem Stands.adds_push {a : Surroundings} (h : Stands s scope a) (hn : header.name ≠ "") :
    Adds s [a.entry header shape] (s.push scope header shape) where
  keeps := keeps_push
  wellNumbered := h.wellNumbered.push h.within hn
  unsorted := h.unsorted.push
  entries := by
    have hkeeps : Keeps s (s.push scope header shape) := keeps_push
    have hnew := (h.tells.mono h.within hkeeps).parent
    rw [Snapshot.entries, declarations_push, Array.toList_push, List.map_append, Snapshot.entries]
    congr 1
    · exact List.map_congr_left fun d hd => h.wellNumbered.entry_mono hkeeps hd
    · simp only [List.map_cons, List.map_nil, Declaration.entry, Surroundings.entry,
        Surroundings.location, pushed, h.tells.path, h.tells.package, h.tells.name, hnew]

theorem Stands.inside {a : Surroundings} {shape : ClassShape} (h : Stands s scope a)
    (hn : header.name ≠ "") :
    Stands (s.push scope header (.class_ shape))
      { scope with parent := some s.declarations.size, name := qualify scope.name header.name }
      (a.inside header) where
  wellNumbered := h.wellNumbered.push h.within hn
  unsorted := h.unsorted.push
  within := by
    refine ⟨?_, ?_⟩
    · rintro p ⟨⟩
      exact ⟨_, by rw [get?_push, if_pos rfl], rfl, rfl⟩
    · rintro ⟨⟩
  tells := by
    refine ⟨h.tells.path, h.tells.package, ?_, ?_⟩
    · exact congrArg (qualify · header.name) h.tells.name
    · simp only [Surroundings.inside, Surroundings.location, Option.bind_some, place?, get?_push,
        if_true, Option.map_some, pushed, h.tells.path]

mutual
/-- A declaration that is added is added with everything inside it. -/
theorem adds_addNode {scope : Scope} {a : Surroundings} : ∀ (node : Node) {s s' : Snapshot},
    Stands s scope a → addNode scope node s = .ok s' → Adds s (node.entries a) s'
  | .ofClass header shape members, s, s', h, hadd => by
    rw [addNode] at hadd
    split at hadd
    · cases hadd
    · rename_i hn
      have hn : header.name ≠ "" := by simpa using hn
      rw [Node.entries]
      exact (h.adds_push hn).trans (adds_addNodes members (h.inside hn) hadd)
  | .ofFunction header shape, s, s', h, hadd => by
    rw [addNode] at hadd
    split at hadd
    · cases hadd
    · rename_i hn
      cases hadd
      exact h.adds_push (by simpa using hn)
theorem adds_addNodes {scope : Scope} {a : Surroundings} :
    ∀ (nodes : List Node) {s s' : Snapshot},
    Stands s scope a → addNodes scope nodes s = .ok s' → Adds s (entriesOf a nodes) s'
  | [], s, s', h, hadd => by
    rw [addNodes] at hadd
    cases hadd
    exact ⟨fun _ _ => id, h.wellNumbered, h.unsorted, by simp [entriesOf]⟩
  | node :: rest, s, s', h, hadd => by
    rw [addNodes] at hadd
    obtain ⟨t, hnode, hrest⟩ := bind_eq_ok hadd
    have hfirst := adds_addNode node h hnode
    exact hfirst.trans (adds_addNodes rest (hfirst.stands h) hrest)
end

mutual
/-- A declaration is added exactly when it and everything inside it have names. -/
theorem isOk_addNode {scope : Scope} {a : Surroundings} : ∀ (node : Node) {s : Snapshot},
    (addNode scope node s).isOk = (node.entries a).all SourceEntry.isNamed
  | .ofClass header shape members, s => by
    rw [addNode, Node.entries, List.all_cons]
    split
    · rename_i hn
      simp [Except.isOk, Except.toBool, SourceEntry.isNamed, Surroundings.entry, hn]
    · rename_i hn
      rw [isOk_addNodes (a := a.inside header) members]
      simp [SourceEntry.isNamed, Surroundings.entry, hn]
  | .ofFunction header shape, s => by
    rw [addNode, Node.entries, List.all_cons]
    split <;> rename_i hn <;>
      simp [Except.isOk, Except.toBool, SourceEntry.isNamed, Surroundings.entry, hn]
theorem isOk_addNodes {scope : Scope} {a : Surroundings} : ∀ (nodes : List Node) {s : Snapshot},
    (addNodes scope nodes s).isOk = (entriesOf a nodes).all SourceEntry.isNamed
  | [], s => rfl
  | node :: rest, s => by
    rw [addNodes, entriesOf, List.all_append, ← isOk_addNode node]
    rcases addNode scope node s with e | t
    · rfl
    · exact (isOk_addNodes rest).trans (Bool.true_and _).symm
end

/-! ## Adding files -/

theorem stands_ofFile {file : SourceFile} {packages : List String} (hw : WellNumbered s)
    (hu : Unsorted s) : Stands { s with packages } (.ofFile file) (.ofFile file) where
  wellNumbered := ⟨hw.id_eq, hw.named, hw.topLevel, hw.parent, hw.findClass⟩
  unsorted := hu
  within := ⟨by rintro p ⟨⟩, fun _ => rfl⟩
  tells := ⟨rfl, rfl, rfl, rfl⟩

theorem adds_addFile {file : SourceFile} (hw : WellNumbered s) (hu : Unsorted s)
    (h : s.addFile file = .ok s') : Adds s file.entries s' := by
  have hadds := adds_addNodes file.declarations (stands_ofFile hw hu) h
  exact ⟨hadds.keeps, hadds.wellNumbered, hadds.unsorted, hadds.entries⟩

theorem adds_addFiles {files : List SourceFile} (hw : WellNumbered s) (hu : Unsorted s)
    (h : files.foldlM addFile s = .ok s') : Adds s (listing files) s' := by
  induction files generalizing s with
  | nil =>
    cases h
    exact ⟨fun _ _ => id, hw, hu, by simp [listing]⟩
  | cons file files ih =>
    rw [List.foldlM_cons] at h
    obtain ⟨t, hfile, hrest⟩ := bind_eq_ok h
    have hfirst := adds_addFile hw hu hfile
    exact hfirst.trans (ih hfirst.wellNumbered hfirst.unsorted hrest)

theorem isOk_addFiles (files : List SourceFile) (s : Snapshot) :
    (files.foldlM addFile s).isOk = (listing files).all SourceEntry.isNamed := by
  induction files generalizing s with
  | nil => rfl
  | cons file files ih =>
    have hfile : (s.addFile file).isOk = file.entries.all SourceEntry.isNamed :=
      isOk_addNodes file.declarations
    rw [List.foldlM_cons, listing, List.flatMap_cons, List.all_append, ← hfile, ← listing]
    rcases s.addFile file with e | t
    · rfl
    · exact (ih t).trans (Bool.true_and _).symm

/-! ## The snapshot of some files -/

/-- A snapshot that holds some entries, with its annotations sorted. -/
structure Lists (s : Snapshot) (es : List SourceEntry) : Prop where
  wellNumbered : WellNumbered s
  annotated : ∀ name, s.annotated name = (s.carriers name).mergeSort (notAfter s.declarations)
  entries : s.entries = es

theorem Adds.lists {es : List SourceEntry} (h : Adds {} es s) : Lists s.sortAnnotated es where
  wellNumbered := ⟨h.wellNumbered.id_eq, h.wellNumbered.named, h.wellNumbered.topLevel,
    h.wellNumbered.parent, h.wellNumbered.findClass⟩
  annotated := by
    intro name
    have hu : s.annotated name = s.carriers name := h.unsorted name
    rw [Snapshot.annotated, sortAnnotated, OrderedMap.get?_mapValues]
    show _ = (s.carriers name).mergeSort (notAfter s.declarations)
    rw [← hu, Snapshot.annotated]
    cases s.annotatedTable.get? name <;> simp
  entries := h.entries

theorem wellNumbered_empty : WellNumbered {} where
  id_eq h := by cases h
  named h := by cases h
  topLevel h := by cases h
  parent h := by cases h
  findClass _ := rfl

/-- A snapshot is what its files add in the order of their paths, with its annotations sorted. -/
theorem exists_addFiles_of_ofFiles {files : List SourceFile} (h : ofFiles files = .ok s) :
    ∃ t, (files.mergeSort fun a b => a.path ≤ b.path).foldlM addFile {} = .ok t ∧
      s = t.sortAnnotated := by
  unfold ofFiles at h
  rcases hadd : (files.mergeSort fun a b => a.path ≤ b.path).foldlM addFile {} with e | t
  · rw [hadd] at h
    cases h
  · rw [hadd] at h
    cases h
    exact ⟨t, rfl, rfl⟩

/-- A snapshot holds the declarations of its files, the files in the order of their paths. -/
theorem lists_ofFiles {files : List SourceFile} (h : ofFiles files = .ok s) :
    Lists s (listing (files.mergeSort fun a b => a.path ≤ b.path)) := by
  obtain ⟨t, hadd, rfl⟩ := exists_addFiles_of_ofFiles h
  exact (adds_addFiles wellNumbered_empty (fun _ => rfl) hadd).lists

/-- The lists of annotated declarations are in the order of the source. -/
def AnnotatedInOrder (s : Snapshot) : Prop :=
  ∀ e ∈ s.annotatedTable.entries, e.2.Pairwise fun a b => notAfter s.declarations a b

instance (s : Snapshot) : Decidable s.AnnotatedInOrder :=
  inferInstanceAs (Decidable (∀ e ∈ s.annotatedTable.entries, e.2.Pairwise _))

/-- Declarations that are annotated in the order of the source need no sorting. -/
theorem ofFiles_singleton {file : SourceFile} (h : ({} : Snapshot).addFile file = .ok s)
    (hsorted : s.AnnotatedInOrder) : ofFiles [file] = .ok s := by
  have hvalues : s.annotatedTable.entries.map (fun e =>
      (e.1, e.2.mergeSort (notAfter s.declarations))) = s.annotatedTable.entries := by
    refine (List.map_congr_left fun e he => ?_).trans (List.map_id _)
    exact Prod.ext rfl (List.mergeSort_of_pairwise (hsorted e he))
  have hself : s.sortAnnotated = s := by
    unfold sortAnnotated OrderedMap.mapValues
    congr 2
  rw [ofFiles, List.mergeSort_singleton, List.foldlM_cons, h]
  exact congrArg Except.ok hself

/-- What holds of a file when its declarations are added holds of its snapshot. -/
theorem exists_ofFiles_singleton (file : SourceFile) (P : Snapshot → Prop) [DecidablePred P]
    (h : (({} : Snapshot).addFile file).toOption.any
      (fun s => s.AnnotatedInOrder ∧ P s) = true) : ∃ s, ofFiles [file] = .ok s ∧ P s := by
  obtain ⟨s, hadd, hs⟩ := exists_of_toOption_any h
  obtain ⟨hsorted, hs⟩ := of_decide_eq_true hs
  exact ⟨s, ofFiles_singleton hadd hsorted, hs⟩

/-- Files have a snapshot exactly when all their declarations have names. -/
theorem isOk_ofFiles (files : List SourceFile) :
    (ofFiles files).isOk = (listing files).all SourceEntry.isNamed := by
  have hperm : (listing (files.mergeSort fun a b => a.path ≤ b.path)).Perm (listing files) :=
    (List.mergeSort_perm files _).flatMap_right _
  rw [← hperm.all_eq, ← isOk_addFiles _ {}, ofFiles]
  cases (files.mergeSort fun a b => a.path ≤ b.path).foldlM addFile {} <;> rfl

theorem exists_ofFiles {files : List SourceFile} (h : (listing files).all SourceEntry.isNamed) :
    ∃ s, ofFiles files = .ok s := by
  have hok := isOk_ofFiles files
  cases hs : ofFiles files with
  | ok s => exact ⟨s, rfl⟩
  | error e =>
    rw [hs, h] at hok
    cases hok

end Snapshot

end BoundaryGen
