-- Building source files in code, part by part. Each step adds its part behind
-- the parts that are there.
import BoundaryGen.Source.Basic

namespace BoundaryGen

/-! ## Any declaration -/

namespace Node

def mapHeader (f : Header → Header) : Node → Node
  | .ofClass header shape members => .ofClass (f header) shape members
  | .ofFunction header shape => .ofFunction (f header) shape

/-- Changes the shape of a class; a function stays as it is. -/
def mapClass (f : ClassShape → ClassShape) : Node → Node
  | .ofClass header shape members => .ofClass header (f shape) members
  | node => node

/-- Changes the shape of a function; a class stays as it is. -/
def mapFunction (f : FunctionShape → FunctionShape) : Node → Node
  | .ofFunction header shape => .ofFunction header (f shape)
  | node => node

def classNamed (name : String) : Node := .ofClass { name } {} []

/-- A companion object under its usual name. -/
def companion : Node := .ofClass { name := "Companion" } { kind := .companionObject } []

def functionNamed (name : String) : Node := .ofFunction { name } {}

def atLine (line : UInt32) : Node → Node := mapHeader fun h => { h with line }

def annotated (use : AnnotationUse) : Node → Node :=
  mapHeader fun h => { h with annotations := h.annotations ++ [use] }

def withModifier (m : Modifier) : Node → Node :=
  mapHeader fun h => { h with modifiers := h.modifiers ++ [m] }

/-! ## Classes -/

def ofKind (kind : ClassKind) : Node → Node := mapClass fun c => { c with kind }

def withTypeParameter (name : String) : Node → Node :=
  mapClass fun c => { c with typeParameters := c.typeParameters ++ [name] }

def withProperty (name : String) (type : TypeRef) : Node → Node :=
  mapClass fun c => { c with properties := c.properties ++ [{ name, type }] }

def withSuperType (type : TypeRef) : Node → Node :=
  mapClass fun c => { c with superTypes := c.superTypes ++ [type] }

/-- Adds a member to a class; a function stays as it is. -/
def withMember (node member : Node) : Node :=
  match node with
  | .ofClass header shape members => .ofClass header shape (members ++ [member])
  | node => node

/-! ## Functions -/

def withParameter (name : String) (type : TypeRef) : Node → Node :=
  mapFunction fun f => { f with parameters := f.parameters ++ [{ name, type }] }

def returning (type : TypeRef) : Node → Node :=
  mapFunction fun f => { f with returnType := some type }

def onReceiver (type : TypeRef) : Node → Node :=
  mapFunction fun f => { f with receiver := some type }

end Node

/-! ## Files -/

/-- Adds a declaration at the end of a file. -/
def SourceFile.declare (file : SourceFile) (node : Node) : SourceFile :=
  { file with declarations := file.declarations ++ [node] }

end BoundaryGen
