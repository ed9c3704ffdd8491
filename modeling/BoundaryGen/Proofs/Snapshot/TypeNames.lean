-- The names that stand in the types of a declaration: of its properties, its super types, its
-- parameters, its receiver, what it returns, and the literal types of its annotations.
import Mathlib
import BoundaryGen.Proofs.Snapshot.Listing
import BoundaryGen.Proofs.TypeRef.Names

namespace BoundaryGen

/-! ## Names in types -/

def Literal.typeNames : Literal → List String
  | .type t => t.names
  | .flag _ | .number _ | .text _ => []

def AnnotationUse.typeNames (a : AnnotationUse) : List String :=
  a.arguments.flatMap (·.value.typeNames)

def Shape.typeNames : Shape → List String
  | .class_ c => c.properties.flatMap (·.type.names) ++ c.superTypes.flatMap TypeRef.names
  | .function f =>
    f.parameters.flatMap (·.type.names) ++ f.receiver.toList.flatMap TypeRef.names
      ++ f.returnType.toList.flatMap TypeRef.names

def Declaration.typeNames (d : Declaration) : List String :=
  d.shape.typeNames ++ d.annotations.flatMap AnnotationUse.typeNames

def SourceEntry.typeNames (e : SourceEntry) : List String :=
  e.shape.typeNames ++ e.annotations.flatMap AnnotationUse.typeNames

/-- The names of classes and the names in types. -/
def knownNames (es : List SourceEntry) : List String :=
  (es.filter SourceEntry.isClass).map (·.qualifiedName) ++ es.flatMap SourceEntry.typeNames

/-- The name is that of the type of the first parameter, of the receiver, or of what is returned. -/
def FunctionShape.Mentions (name : String) (f : FunctionShape) : Prop :=
  f.parameters.head?.map (·.type.name) = some name ∨ f.receiver.map (·.name) = some name ∨
    f.returnType.map (·.name) = some name

instance (name : String) (f : FunctionShape) : Decidable (f.Mentions name) :=
  inferInstanceAs (Decidable (_ ∨ _ ∨ _))

/-- A function that mentions the name; a class mentions none. -/
def Shape.Mentions (name : String) : Shape → Prop
  | .class_ _ => False
  | .function f => f.Mentions name

instance (name : String) : (shape : Shape) → Decidable (shape.Mentions name)
  | .class_ _ => inferInstanceAs (Decidable False)
  | .function f => inferInstanceAs (Decidable (f.Mentions name))

/-! ## Types of a declaration -/

namespace Declaration

variable {d : Declaration} {t : TypeRef}

theorem shape_of_class? {c : ClassShape} (h : d.class? = some c) : d.shape = .class_ c := by
  unfold class? at h
  split at h
  · rename_i hshape
    cases h
    exact hshape
  · cases h

theorem shape_of_function? {f : FunctionShape} (h : d.function? = some f) :
    d.shape = .function f := by
  unfold function? at h
  split at h
  · cases h
  · rename_i hshape
    cases h
    exact hshape

theorem names_subset_of_property {c : ClassShape} (h : d.class? = some c) {p : Parameter}
    (hp : p ∈ c.properties) : p.type.names ⊆ d.typeNames := by
  intro name hname
  rw [typeNames, shape_of_class? h, Shape.typeNames, List.append_assoc]
  exact List.mem_append_left _ (List.mem_flatMap.mpr ⟨p, hp, hname⟩)

theorem names_subset_of_superType {c : ClassShape} (h : d.class? = some c)
    (ht : t ∈ c.superTypes) : t.names ⊆ d.typeNames := by
  intro name hname
  rw [typeNames, shape_of_class? h, Shape.typeNames, List.append_assoc]
  refine List.mem_append_right _ (List.mem_append_left _ ?_)
  exact List.mem_flatMap.mpr ⟨t, ht, hname⟩

theorem names_subset_of_parameter {f : FunctionShape} (h : d.function? = some f) {p : Parameter}
    (hp : p ∈ f.parameters) : p.type.names ⊆ d.typeNames := by
  intro name hname
  rw [typeNames, shape_of_function? h, Shape.typeNames, List.append_assoc, List.append_assoc]
  exact List.mem_append_left _ (List.mem_flatMap.mpr ⟨p, hp, hname⟩)

theorem names_subset_of_returnType {f : FunctionShape} (h : d.function? = some f)
    (ht : f.returnType = some t) : t.names ⊆ d.typeNames := by
  intro name hname
  rw [typeNames, shape_of_function? h, Shape.typeNames]
  refine List.mem_append_left _ (List.mem_append_right _ ?_)
  rw [ht]
  exact List.mem_flatMap.mpr ⟨t, List.mem_singleton_self t, hname⟩

theorem names_subset_of_annotation {use : AnnotationUse} (h : use ∈ d.annotations)
    (ht : use.firstType? = some t) : t.names ⊆ d.typeNames := by
  intro name hname
  unfold AnnotationUse.firstType? at ht
  split at ht
  · rename_i label t' rest harguments
    cases ht
    refine List.mem_append_right _ (List.mem_flatMap.mpr ⟨use, h, ?_⟩)
    rw [AnnotationUse.typeNames, harguments]
    exact List.mem_flatMap.mpr ⟨_, List.mem_cons_self, hname⟩
  · cases ht

end Declaration

end BoundaryGen
