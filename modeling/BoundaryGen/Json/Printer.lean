-- Writing JSON: one item or entry to a line, two spaces to a level, and no
-- line break at the end. An empty list or map stays on its line.
import BoundaryGen.Json.Basic

namespace BoundaryGen.Json

/-! ## Texts -/

/-- How one character of a text is written. Quotes, backslashes and control characters are
escaped, by a letter where JSON has one; every other character stands as it is. -/
def writeChar (c : Char) : List Char :=
  if c = '"' then ['\\', '"']
  else if c = '\\' then ['\\', '\\']
  else if c = '\x08' then ['\\', 'b']
  else if c = '\x0c' then ['\\', 'f']
  else if c = '\n' then ['\\', 'n']
  else if c = '\r' then ['\\', 'r']
  else if c = '\t' then ['\\', 't']
  else if c.toNat < 0x20 then
    ['\\', 'u', '0', '0', Nat.digitChar (c.toNat / 16), Nat.digitChar (c.toNat % 16)]
  else [c]

/-- A text between quotes. -/
def writeText (s : String) : List Char :=
  '"' :: s.toList.flatMap writeChar ++ ['"']

/-! ## Values -/

/-- A new line at a level. -/
def newLine (level : Nat) : List Char := '\n' :: List.replicate (2 * level) ' '

mutual
/-- Writes a value that starts on a line of a level. The marks of a broken text are written as
null, as no value that is built holds one. -/
def write (level : Nat) : Json → List Char
  | .bool true => ['t', 'r', 'u', 'e']
  | .bool false => ['f', 'a', 'l', 's', 'e']
  | .int n => (toString n).toList
  | .text s => writeText s
  | .list [] => ['[', ']']
  | .list items => '[' :: writeItems (level + 1) items ++ newLine level ++ [']']
  | .map [] => ['\x7b', '\x7d']
  | .map entries => '\x7b' :: writeEntries (level + 1) entries ++ newLine level ++ ['\x7d']
  | _ => ['n', 'u', 'l', 'l']
/-- Writes the items of a list, each on a line of its own. -/
def writeItems (level : Nat) : List Json → List Char
  | [] => []
  | [item] => newLine level ++ write level item
  | item :: rest => newLine level ++ write level item ++ ',' :: writeItems level rest
/-- Writes the entries of a map, each on a line of its own. -/
def writeEntries (level : Nat) : List (String × Json) → List Char
  | [] => []
  | [(key, value)] => newLine level ++ writeText key ++ ':' :: ' ' :: write level value
  | (key, value) :: rest =>
    newLine level ++ writeText key ++ ':' :: ' ' :: write level value
      ++ ',' :: writeEntries level rest
end

/-- The text of a value. -/
def pretty (value : Json) : String := String.ofList (write 0 value)

end BoundaryGen.Json
