-- Reading a type from its text. Blanks may stand between any two parts. The
-- words `in` and `out` in front of an argument are its variance when a type
-- follows, and a type name otherwise.
import BoundaryGen.Text.Blank
import BoundaryGen.Text.NameChar
import BoundaryGen.TypeRef.Basic

namespace BoundaryGen.TypeRef

/-! ## Errors -/

/-- What is wrong where reading stops. -/
inductive Fault where
  | nameExpected
  | commaOrCloseExpected
  | trailingInput
  deriving DecidableEq, Repr

def Fault.message : Fault → String
  | .nameExpected => "expected a type name"
  | .commaOrCloseExpected => "expected ',' or '>'"
  | .trailingInput => "unexpected trailing input"

/-- A text that is no type. The position counts characters from the start of the text. -/
structure ParseError where
  fault : Fault
  position : Nat
  input : String
  deriving DecidableEq, Repr

def ParseError.message (e : ParseError) : String :=
  e.fault.message ++ " at position " ++ toString e.position ++ " in '" ++ e.input ++ "'"

/-- A fault, and the text from the place where it is met. -/
structure Stop where
  fault : Fault
  rest : List Char
  deriving DecidableEq, Repr

/-! ## Readers -/

/-- Reads a name behind blanks. -/
def readName (cs : List Char) : Except Stop (List Char × List Char) :=
  let cs := Text.skipBlanks cs
  match cs.takeWhile Text.isNameChar with
  | [] => .error ⟨.nameExpected, cs⟩
  | name => .ok (name, cs.dropWhile Text.isNameChar)

/-- Reads the question mark that may end a type. -/
def readNullable (cs : List Char) : Bool × List Char :=
  match Text.skipBlanks cs with
  | '?' :: rest => (true, rest)
  | rest => (false, rest)

/-- The variance that a word in front of a type stands for. -/
def varianceOfWord (word : List Char) : Option Variance :=
  if word = ['i', 'n'] then some .inward
  else if word = ['o', 'u', 't'] then some .outward
  else none

/-- Whether the text behind a word shows that the word is a type name: the argument or the text
ends, or the type goes on. -/
def endsName : List Char → Bool
  | [] => true
  | c :: _ => c = ',' || c = '>' || c = '<' || c = '?'

/-- The variance of an argument, and the text of its type. -/
def readVariance (cs : List Char) : Except Stop (Variance × List Char) := do
  let (word, rest) ← readName cs
  match varianceOfWord word with
  | none => return (.invariant, cs)
  | some variance =>
    let rest := Text.skipBlanks rest
    return if endsName rest then (.invariant, cs) else (variance, rest)

/-- Reads the brackets that may follow the name of a type, what is inside them by `arguments`. -/
def readBrackets (arguments : List Char → Except Stop (List TypeArgument × List Char))
    (cs : List Char) : Except Stop (List TypeArgument × List Char) :=
  match Text.skipBlanks cs with
  | '<' :: inner =>
    match Text.skipBlanks inner with
    | '>' :: rest => .ok ([], rest)
    | inner => arguments inner
  | rest => .ok ([], rest)

/-- Reads an argument, its type by `type`. -/
def readArgument (type : List Char → Except Stop (TypeRef × List Char)) (cs : List Char) :
    Except Stop (TypeArgument × List Char) :=
  match Text.skipBlanks cs with
  | '*' :: rest => .ok ({ variance := .star }, rest)
  | cs => do
    let (variance, cs) ← readVariance cs
    let (type, rest) ← type cs
    return ({ variance, type := some type }, rest)

mutual
/-- Reads a type. `fuel` bounds the steps; one more than the length of the text is enough. -/
def readType : Nat → List Char → Except Stop (TypeRef × List Char)
  | 0, cs => .error ⟨.nameExpected, cs⟩
  | fuel + 1, cs => do
    let (name, rest) ← readName cs
    let (arguments, rest) ← readBrackets (readArguments fuel) rest
    let (nullable, rest) := readNullable rest
    return ({ name := String.ofList name, arguments, nullable }, rest)
/-- Reads arguments up to the closing bracket. -/
def readArguments : Nat → List Char → Except Stop (List TypeArgument × List Char)
  | 0, cs => .error ⟨.nameExpected, cs⟩
  | fuel + 1, cs => do
    let (argument, rest) ← readArgument (readType fuel) cs
    match Text.skipBlanks rest with
    | ',' :: rest =>
      let (arguments, rest) ← readArguments fuel rest
      return (argument :: arguments, rest)
    | '>' :: rest => return ([argument], rest)
    | rest => .error ⟨.commaOrCloseExpected, rest⟩
end

/-- Reads a type that the whole text writes. -/
def readWhole (cs : List Char) : Except Stop TypeRef := do
  let (t, rest) ← readType (cs.length + 1) cs
  match Text.skipBlanks rest with
  | [] => return t
  | rest => .error ⟨.trailingInput, rest⟩

/-- The type that a text writes. -/
def parse (input : String) : Except ParseError TypeRef :=
  let cs := input.toList
  match readWhole cs with
  | .ok t => .ok t
  | .error stop => .error ⟨stop.fault, cs.length - stop.rest.length, input⟩

end BoundaryGen.TypeRef
