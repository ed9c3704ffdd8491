-- The declarations of source files, as a compiler hands them over: classes and
-- functions with their annotations, modifiers and types, and the members of
-- classes inside them.
import BoundaryGen.TypeRef.Basic

namespace BoundaryGen

/-! ## Annotations -/

/-- A literal argument of an annotation. -/
inductive Literal where
  | flag (value : Bool)
  | number (value : Int64)
  | text (value : String)
  | type (value : TypeRef)
  deriving DecidableEq

structure LiteralArgument where
  name : Option String := none
  value : Literal
  deriving DecidableEq

/-- An annotation as it stands on a declaration. -/
structure AnnotationUse where
  name : String
  arguments : List LiteralArgument := []
  deriving DecidableEq

namespace AnnotationUse

/-- The first argument, when it is a flag. -/
def firstFlag? (a : AnnotationUse) : Option Bool :=
  match a.arguments with
  | ⟨_, .flag b⟩ :: _ => some b
  | _ => none

/-- The first argument, when it is a type. -/
def firstType? (a : AnnotationUse) : Option TypeRef :=
  match a.arguments with
  | ⟨_, .type t⟩ :: _ => some t
  | _ => none

end AnnotationUse

/-! ## Parts of declarations -/

inductive Modifier where
  | suspend
  | expect
  | actual
  | companion
  | data
  | inline
  | override
  | publicAccess
  | internalAccess
  | privateAccess
  | protectedAccess
  deriving DecidableEq, Repr

inductive ClassKind where
  | plain
  | interface
  | object
  | companionObject
  | enumeration
  deriving DecidableEq, Repr, Inhabited

/-- A parameter of a function, or a property of a class. -/
structure Parameter where
  name : String
  type : TypeRef
  deriving DecidableEq

/-- What a class declares, its members apart. -/
structure ClassShape where
  kind : ClassKind := .plain
  typeParameters : List String := []
  properties : List Parameter := []
  superTypes : List TypeRef := []
  deriving DecidableEq

structure FunctionShape where
  parameters : List Parameter := []
  returnType : Option TypeRef := none
  receiver : Option TypeRef := none
  deriving DecidableEq

/-- What every declaration has. -/
structure Header where
  name : String
  line : UInt32 := 0
  column : UInt32 := 0
  annotations : List AnnotationUse := []
  modifiers : List Modifier := []
  deriving DecidableEq

/-! ## Declarations and files -/

/-- A declaration with everything inside it. -/
inductive Node where
  | ofClass (header : Header) (shape : ClassShape) (members : List Node)
  | ofFunction (header : Header) (shape : FunctionShape)

def Node.header : Node → Header
  | .ofClass header _ _ => header
  | .ofFunction header _ => header

structure SourceFile where
  path : String
  package : String := ""
  declarations : List Node := []

end BoundaryGen
