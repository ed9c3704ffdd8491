-- Snapshots: the declarations of one compilation in a fixed order, with tables
-- to find them by annotation, by class name and by package. Files come in the
-- order of their paths, and declarations before their members.
import BoundaryGen.OrderedMap
import BoundaryGen.Source.Basic

namespace BoundaryGen

/-- The place of a declaration in its snapshot. -/
abbrev DeclId := Nat

structure Location where
  file : String
  line : UInt32
  column : UInt32
  deriving DecidableEq, Repr

/-- What a declaration is. -/
inductive Shape where
  | class_ (shape : ClassShape)
  | function (shape : FunctionShape)
  deriving DecidableEq

structure Declaration where
  id : DeclId
  simpleName : String
  qualifiedName : String
  package : String
  /-- The class that the declaration stands in directly. -/
  parent : Option DeclId
  location : Location
  annotations : List AnnotationUse
  modifiers : List Modifier
  shape : Shape
  deriving DecidableEq

namespace Declaration

def class? (d : Declaration) : Option ClassShape :=
  match d.shape with
  | .class_ shape => some shape
  | .function _ => none

def function? (d : Declaration) : Option FunctionShape :=
  match d.shape with
  | .class_ _ => none
  | .function shape => some shape

/-- The first annotation of a name. -/
def annotationNamed (d : Declaration) (name : String) : Option AnnotationUse :=
  d.annotations.find? (·.name = name)

def hasModifier (d : Declaration) (m : Modifier) : Bool := d.modifiers.contains m

/-- A companion object, by its kind or by its modifier. -/
def isCompanion (d : Declaration) : Bool :=
  (match d.shape with
    | .class_ shape => shape.kind = .companionObject
    | .function _ => false)
  || d.hasModifier .companion

end Declaration

/-- The declarations of one compilation. -/
structure Snapshot where
  declarations : Array Declaration := #[]
  /-- For each annotation, the declarations that carry it. -/
  annotatedTable : OrderedMap String (List DeclId) := .empty
  /-- For each qualified name, the last class of that name. -/
  classTable : OrderedMap String DeclId := .empty
  /-- The packages of the files. -/
  packages : List String := []

/-- A declaration without a name. -/
structure Unnamed where
  path : String
  line : UInt32
  deriving DecidableEq, Repr

def Unnamed.message (e : Unnamed) : String :=
  "Unnamed declaration in " ++ e.path ++ " at line " ++ toString e.line.toNat

namespace Snapshot

/-! ## Adding declarations -/

/-- A name inside the scope of another name. -/
def qualify (scope name : String) : String :=
  if scope.isEmpty then name else scope ++ "." ++ name

/-- Where a declaration stands: its file, the class around it, and the name of that class or of
the package. -/
structure Scope where
  path : String
  package : String
  parent : Option DeclId
  name : String

/-- The scope of the declarations of a file. -/
def Scope.ofFile (file : SourceFile) : Scope where
  path := file.path
  package := file.package
  parent := none
  name := file.package

/-- Notes a declaration in the table of annotations, once for each of its annotations. -/
def noteAnnotations (id : DeclId) (uses : List AnnotationUse)
    (table : OrderedMap String (List DeclId)) : OrderedMap String (List DeclId) :=
  uses.foldl (fun table use => table.insert use.name ((table.get? use.name).getD [] ++ [id])) table

/-- Adds one declaration without its members. -/
def push (s : Snapshot) (scope : Scope) (header : Header) (shape : Shape) : Snapshot :=
  let id := s.declarations.size
  let qualifiedName := qualify scope.name header.name
  { s with
    declarations := s.declarations.push {
      id
      simpleName := header.name
      qualifiedName
      package := scope.package
      parent := scope.parent
      location := { file := scope.path, line := header.line, column := header.column }
      annotations := header.annotations
      modifiers := header.modifiers
      shape }
    annotatedTable := noteAnnotations id header.annotations s.annotatedTable
    classTable := match shape with
      | .class_ _ => s.classTable.insert qualifiedName id
      | .function _ => s.classTable }

mutual
/-- Adds a declaration and then its members. -/
def addNode (scope : Scope) : Node → Snapshot → Except Unnamed Snapshot
  | .ofClass header shape members, s =>
    if header.name.isEmpty then .error ⟨scope.path, header.line⟩
    else
      addNodes
        { scope with
          parent := some s.declarations.size
          name := qualify scope.name header.name }
        members (s.push scope header (.class_ shape))
  | .ofFunction header shape, s =>
    if header.name.isEmpty then .error ⟨scope.path, header.line⟩
    else .ok (s.push scope header (.function shape))
/-- Adds declarations one after the other. -/
def addNodes (scope : Scope) : List Node → Snapshot → Except Unnamed Snapshot
  | [], s => .ok s
  | node :: rest, s => addNode scope node s >>= addNodes scope rest
end

/-- Adds the declarations of a file. -/
def addFile (s : Snapshot) (file : SourceFile) : Except Unnamed Snapshot :=
  addNodes (.ofFile file) file.declarations { s with packages := s.packages ++ [file.package] }

/-! ## The order of the source -/

/-- The order of two places in the source: by path, then line, then column. -/
def Location.compare (a b : Location) : Ordering :=
  (Ord.compare a.file b.file).then <|
    (Ord.compare a.line.toNat b.line.toNat).then (Ord.compare a.column.toNat b.column.toNat)

/-- Whether one declaration comes before another in the order of the source. Declarations of one
place keep the order of the snapshot. -/
def notAfter (declarations : Array Declaration) (a b : DeclId) : Bool :=
  match declarations[a]?, declarations[b]? with
  | some x, some y => ((Location.compare x.location y.location).then (Ord.compare a b)).isLE
  | _, _ => a ≤ b

/-- Puts the lists of annotated declarations into the order of the source. -/
def sortAnnotated (s : Snapshot) : Snapshot :=
  { s with
    annotatedTable :=
      s.annotatedTable.mapValues fun ids => ids.mergeSort (notAfter s.declarations) }

/-- The snapshot of some files. -/
def ofFiles (files : List SourceFile) : Except Unnamed Snapshot :=
  sortAnnotated <$> (files.mergeSort fun a b => a.path ≤ b.path).foldlM addFile {}

end Snapshot

end BoundaryGen
