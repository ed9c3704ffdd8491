-- Reading a manifest back: its type texts become types whose every name is a
-- type that all generators know, or one that a resolver accepts.
import BoundaryGen.Manifest.Export
import BoundaryGen.TypeRef.Parser

namespace BoundaryGen

/-! ## Types that all generators know -/

inductive Builtin where
  | int
  | string
  | boolean
  | double
  | float
  | long
  | short
  | byte
  | char
  | list
  | map
  | set
  | collection
  | mutableList
  | mutableMap
  | mutableSet
  | mutableCollection
  deriving DecidableEq, Repr

namespace Builtin

/-- The qualified name of each type. -/
def table : List (String × Builtin) :=
  [("kotlin.Int", .int), ("kotlin.String", .string), ("kotlin.Boolean", .boolean),
    ("kotlin.Double", .double), ("kotlin.Float", .float), ("kotlin.Long", .long),
    ("kotlin.Short", .short), ("kotlin.Byte", .byte), ("kotlin.Char", .char),
    ("kotlin.collections.List", .list), ("kotlin.collections.Map", .map),
    ("kotlin.collections.Set", .set), ("kotlin.collections.Collection", .collection),
    ("kotlin.collections.MutableList", .mutableList),
    ("kotlin.collections.MutableMap", .mutableMap),
    ("kotlin.collections.MutableSet", .mutableSet),
    ("kotlin.collections.MutableCollection", .mutableCollection)]

/-- The type of a qualified name. -/
def lookup (name : String) : Option Builtin := table.lookup name

def isCollection : Builtin → Bool
  | .list | .map | .set | .collection | .mutableList | .mutableMap | .mutableSet
  | .mutableCollection => true
  | _ => false

end Builtin

/-! ## Resolving -/

/-- What a type name means. -/
inductive TypeKind where
  | builtin (type : Builtin)
  /-- A type of the user, by the qualified name that the resolver accepts. -/
  | declared (qualifiedName : String)
  deriving DecidableEq, Repr

/-- Says what a name means that is no builtin type. -/
abbrev Resolver := String → Option TypeKind

/-- Takes every name for a declared type. -/
def anyResolver : Resolver := fun name => some (.declared name)

/-- Takes the names of the classes of a snapshot. A nested class may be written with dollar
signs. -/
def Snapshot.resolver (s : Snapshot) : Resolver := fun name => do
  let dotted := String.ofList (name.toList.map fun c => if c = '$' then '.' else c)
  let d ← s.get? (← s.findClass dotted)
  return .declared d.qualifiedName

/-- A type whose every name has a meaning. A star projection stays without one. -/
inductive ResolvedType where
  | mk (type : TypeRef) (kind : TypeKind) (arguments : List (Option ResolvedType))

namespace ResolvedType

def type : ResolvedType → TypeRef
  | .mk type _ _ => type

def kind : ResolvedType → TypeKind
  | .mk _ kind _ => kind

def arguments : ResolvedType → List (Option ResolvedType)
  | .mk _ _ arguments => arguments

def isCollection (t : ResolvedType) : Bool :=
  match t.kind with
  | .builtin b => b.isCollection
  | .declared _ => false

/-- The text of the type. -/
def render (t : ResolvedType) : String := t.type.render

/-- What a name means: a builtin type, or what the resolver says. -/
def kindOf? (resolve : Resolver) (name : String) : Option TypeKind :=
  match Builtin.lookup name with
  | some b => some (.builtin b)
  | none => resolve name

mutual
/-- Resolves every name of a type, from the left and from the outside. The first name without a
meaning is given as the error. -/
def ofType (resolve : Resolver) : TypeRef → Except String ResolvedType
  | t@⟨name, arguments, _⟩ =>
    match kindOf? resolve name with
    | none => .error name
    | some kind => do return .mk t kind (← ofArguments resolve arguments)
/-- Resolves the types of arguments. -/
def ofArguments (resolve : Resolver) :
    List TypeArgument → Except String (List (Option ResolvedType))
  | [] => .ok []
  | ⟨_, none⟩ :: rest => do return none :: (← ofArguments resolve rest)
  | ⟨_, some type⟩ :: rest => do
    let type ← ofType resolve type
    return some type :: (← ofArguments resolve rest)
end

end ResolvedType

/-! ## Models of a manifest -/

/-- Why a manifest cannot be read back. -/
inductive BindingError where
  | type (error : TypeRef.ParseError)
  | unresolved (name : String)
  deriving DecidableEq, Repr

/-- A type text with the meaning of its names. -/
def ResolvedType.parse (resolve : Resolver) (s : String) : Except BindingError ResolvedType :=
  match TypeRef.parse s with
  | .error e => .error (.type e)
  | .ok t =>
    match ofType resolve t with
    | .error name => .error (.unresolved name)
    | .ok t => .ok t

structure BindingIntent where
  name : String
  isAsync : Bool
  parameters : List (String × ResolvedType)

/-- A model as a generator on the other side sees it. -/
structure BindingModel where
  name : String
  values : List (String × ResolvedType)
  intents : List BindingIntent
  init : List (String × ResolvedType)
  isInitSuspend : Bool

namespace BindingModel

/-- Each parameter with its type resolved. -/
def resolveMap (resolve : Resolver) (m : ParameterMap) :
    Except BindingError (List (String × ResolvedType)) :=
  m.entries.mapM fun (name, s) => do return (name, ← ResolvedType.parse resolve s)

/-- The name of an intent and whether it gives a handle, from its key. -/
def splitKey (key : String) : String × Bool :=
  let mark := suspendMark.toList
  if mark.isPrefixOf key.toList then (String.ofList (key.toList.drop mark.length), true)
  else (key, false)

def intentOf (resolve : Resolver) (entry : String × ParameterMap) :
    Except BindingError BindingIntent := do
  let (name, isAsync) := splitKey entry.1
  return { name, isAsync, parameters := ← resolveMap resolve entry.2 }

/-- A model with its types resolved: first those of its intents, then of its values, then of its
init function. -/
def ofData (resolve : Resolver) (entry : String × ModelData) :
    Except BindingError BindingModel := do
  let intents ← entry.2.intents.entries.mapM (intentOf resolve)
  let values ← resolveMap resolve entry.2.values
  let init ← resolveMap resolve entry.2.init
  return { name := entry.1, values, intents, init, isInitSuspend := entry.2.isInitSuspend }

end BindingModel

/-- The models of a manifest with their types resolved. -/
def Manifest.bindings (resolve : Resolver) (m : Manifest) :
    Except BindingError (List BindingModel) :=
  m.models.entries.mapM (BindingModel.ofData resolve)

end BoundaryGen
