-- The text form of a type: its name, its arguments between angle brackets, and
-- a question mark when it is nullable.
import BoundaryGen.Text.Blank
import BoundaryGen.TypeRef.Basic

namespace BoundaryGen.TypeRef

/-- Pieces with a comma and a space between them. -/
def commaSeparated : List (List Char) → List Char
  | [] => []
  | [piece] => piece
  | piece :: rest => piece ++ ',' :: ' ' :: commaSeparated rest

mutual
/-- The characters of a type whose names are each written as `qualify` says. -/
def chars (qualify : String → String) : TypeRef → List Char
  | ⟨name, arguments, nullable⟩ =>
    let brackets := match arguments with
      | [] => []
      | arguments => '<' :: commaSeparated (argumentChars qualify arguments) ++ ['>']
    (qualify name).toList ++ brackets ++ if nullable then ['?'] else []
/-- The characters of each argument. An argument with a type has its label in front, without
the blanks at either end. -/
def argumentChars (qualify : String → String) : List TypeArgument → List (List Char)
  | [] => []
  | ⟨_, none⟩ :: rest => ['*'] :: argumentChars qualify rest
  | ⟨variance, some type⟩ :: rest =>
    Text.trim (variance.label.toList ++ ' ' :: chars qualify type) :: argumentChars qualify rest
end

/-- The text of a type whose names are each written as `qualify` says. -/
def renderWith (qualify : String → String) (t : TypeRef) : String :=
  String.ofList (t.chars qualify)

/-- The text of a type. -/
def render (t : TypeRef) : String := t.renderWith id

end BoundaryGen.TypeRef
