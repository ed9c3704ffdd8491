-- Questions to a snapshot: which declarations carry an annotation, which class
-- a name means, whether a value of one type serves as another, and how types
-- are written.
import BoundaryGen.Snapshot.Basic
import BoundaryGen.TypeRef.Printer

namespace BoundaryGen.Snapshot

/-! ## Finding declarations -/

def get? (s : Snapshot) (id : DeclId) : Option Declaration := s.declarations[id]?

/-- The declarations that carry an annotation, in the order of the source. One that carries it
twice is named twice. -/
def annotated (s : Snapshot) (name : String) : List DeclId := (s.annotatedTable.get? name).getD []

/-- The class of a qualified name; of several, the last. -/
def findClass (s : Snapshot) (qualifiedName : String) : Option DeclId :=
  s.classTable.get? qualifiedName

/-- The class of a qualified name with what it declares. -/
def classNamed (s : Snapshot) (qualifiedName : String) : Option (Declaration × ClassShape) := do
  let d ← s.get? (← s.findClass qualifiedName)
  return (d, ← d.class?)

/-- Whether some file lies in a package or in one below it. -/
def hasPackage (s : Snapshot) (package : String) : Bool :=
  s.packages.any fun p => p = package || (package ++ ".").toList.isPrefixOf p.toList

/-- The declaration that another one stands in. -/
def parent? (s : Snapshot) (id : DeclId) : Option Declaration := do
  s.get? (← (← s.get? id).parent)

/-- The class two levels above a declaration. -/
def grandparentId? (s : Snapshot) (id : DeclId) : Option DeclId := do
  (← s.parent? id).parent

/-! ## Assignability -/

/-- The names of the super types of the class that a name means. -/
def superNames (s : Snapshot) (name : String) : List String :=
  match s.classNamed name with
  | some (_, shape) => shape.superTypes.map (·.name)
  | none => []

/-- Searches for `target` from the names that wait, the last one first. `seen` holds the names
that were searched. `fuel` bounds the steps. -/
def reaches (s : Snapshot) (target : String) :
    (fuel : Nat) → (seen : List String) → (waiting : List String) → Bool
  | 0, _, _ => false
  | _, _, [] => false
  | fuel + 1, seen, name :: rest =>
    if name = target then true
    else if name ∈ seen then s.reaches target fuel seen rest
    else s.reaches target fuel (name :: seen) ((s.superNames name).reverse ++ rest)

/-- The number of super types of all classes. No search takes more steps than these and one, as
each class is searched once. -/
def superTypeCount (s : Snapshot) : Nat :=
  (s.declarations.toList.map fun d => (d.class?.map (·.superTypes.length)).getD 0).foldr (· + ·) 0

/-- Whether a value of a type serves where `target` is wanted: the type is not nullable, and
`target` is its name or reached from it through the super types of classes. -/
def isAssignable (s : Snapshot) (target : String) (candidate : TypeRef) : Bool :=
  !candidate.nullable && s.reaches target (s.superTypeCount + 2) [] [candidate.name]

/-! ## Types -/

/-- The type of a class with a star for each of its type parameters. -/
def starProjectedType (s : Snapshot) (id : DeclId) : TypeRef :=
  match s.get? id with
  | some d => .starProjected d.qualifiedName ((d.class?.map (·.typeParameters.length)).getD 0)
  | none => { name := "" }

/-- How a name is written in type texts, for a class no deeper than `depth` levels: a nested
class is joined to the class around it by a dollar sign. -/
def qualifierWithin (s : Snapshot) : (depth : Nat) → String → String
  | 0, name => name
  | depth + 1, name =>
    match s.findClass name with
    | none => name
    | some id =>
      match s.get? id, s.parent? id with
      | some d, some parent =>
        if parent.class?.isSome then
          s.qualifierWithin depth parent.qualifiedName ++ "$" ++ d.simpleName
        else d.qualifiedName
      | some d, none => d.qualifiedName
      | none, _ => name

/-- How a name is written in type texts. The names of the classes around a class grow shorter, so
its length bounds the levels. -/
def qualifier (s : Snapshot) (name : String) : String :=
  s.qualifierWithin (name.length + 1) name

/-- The text of a type. -/
def typeText (s : Snapshot) (t : TypeRef) : String := t.renderWith s.qualifier

end BoundaryGen.Snapshot
