-- Type references: a qualified name, a list of arguments with their variance,
-- and whether the type is nullable. The same form describes the types of a
-- snapshot and the types read back from a manifest.

namespace BoundaryGen

/-- How a type argument is projected. -/
inductive Variance where
  | invariant
  | inward
  | outward
  | star
  deriving DecidableEq, Repr, Inhabited

/-- The word in front of an argument. -/
def Variance.label : Variance → String
  | .invariant => ""
  | .inward => "in"
  | .outward => "out"
  | .star => "*"

mutual
/-- A reference to a type. -/
structure TypeRef where
  name : String
  arguments : List TypeArgument := []
  nullable : Bool := false
/-- An argument of a type. A star projection has no type. -/
structure TypeArgument where
  variance : Variance := .invariant
  type : Option TypeRef := none
end

instance : Inhabited TypeRef := ⟨{ name := "" }⟩

/-! ## Equality -/

namespace TypeRef

mutual
/-- Whether two types are the same. -/
def same : TypeRef → TypeRef → Bool
  | ⟨a, as, p⟩, ⟨b, bs, q⟩ => decide (a = b) && sameArguments as bs && p == q
/-- Whether two arguments are the same. -/
def sameArgument : TypeArgument → TypeArgument → Bool
  | ⟨v, a⟩, ⟨w, b⟩ => decide (v = w) && sameOption a b
/-- Whether two optional types are the same. -/
def sameOption : Option TypeRef → Option TypeRef → Bool
  | none, none => true
  | some a, some b => same a b
  | _, _ => false
/-- Whether two lists of arguments are the same. -/
def sameArguments : List TypeArgument → List TypeArgument → Bool
  | [], [] => true
  | a :: as, b :: bs => sameArgument a b && sameArguments as bs
  | _, _ => false
end

mutual
theorem same_iff : ∀ a b : TypeRef, same a b = true ↔ a = b
  | ⟨a, as, p⟩, ⟨b, bs, q⟩ => by simp [same, sameArguments_iff as bs, and_assoc]
theorem sameArgument_iff : ∀ a b : TypeArgument, sameArgument a b = true ↔ a = b
  | ⟨v, a⟩, ⟨w, b⟩ => by simp [sameArgument, sameOption_iff a b]
theorem sameOption_iff : ∀ a b : Option TypeRef, sameOption a b = true ↔ a = b
  | none, none => by simp [sameOption]
  | some a, some b => by simp [sameOption, same_iff a b]
  | none, some _ => by simp [sameOption]
  | some _, none => by simp [sameOption]
theorem sameArguments_iff : ∀ as bs : List TypeArgument, sameArguments as bs = true ↔ as = bs
  | [], [] => by simp [sameArguments]
  | a :: as, b :: bs => by simp [sameArguments, sameArgument_iff a b, sameArguments_iff as bs]
  | [], _ :: _ => by simp [sameArguments]
  | _ :: _, [] => by simp [sameArguments]
end

instance : DecidableEq TypeRef := fun a b => decidable_of_iff _ (same_iff a b)

instance : DecidableEq TypeArgument := fun a b => decidable_of_iff _ (sameArgument_iff a b)

/-! ## Building types -/

/-- A type with invariant arguments. -/
def ofArguments (name : String) (arguments : List TypeRef) : TypeRef where
  name
  arguments := arguments.map fun t => { type := some t }

/-- A type with `arity` star projections. -/
def starProjected (name : String) (arity : Nat) : TypeRef where
  name
  arguments := List.replicate arity { variance := .star }

/-- The nullable form of a type. -/
def orNull (t : TypeRef) : TypeRef := { t with nullable := true }

/-! ## Reading types -/

/-- The type of an argument, when there is one. -/
def argument? (t : TypeRef) (i : Nat) : Option TypeRef := t.arguments[i]?.bind (·.type)

/-- The last of the parts of a name that dots divide. -/
def lastPart (cs : List Char) : List Char := (cs.reverse.takeWhile (· ≠ '.')).reverse

/-- The name behind its last dot. -/
def simpleName (t : TypeRef) : String := String.ofList (lastPart t.name.toList)

end TypeRef

/-- Whether an argument is a star projection, by its variance or for want of a type. -/
def TypeArgument.isStar (a : TypeArgument) : Bool := a.variance = .star || a.type.isNone

end BoundaryGen
