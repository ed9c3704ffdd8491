-- Reading TOML. A text that is no TOML gives nothing, whatever its fault and
-- wherever it is.
import BoundaryGen.Toml.Table
import BoundaryGen.Toml.Token

namespace BoundaryGen.Toml

/-! ## Limits -/

/-- Lists and tables inside values, and the parts of a key with dots, stay below this number. -/
def levelLimit : Nat := 80

/-! ## Keys -/

/-- A character of a key without quotes. -/
def isKeyChar (c : Char) : Bool := c.isAlphanum || c == '-' || c == '_'

/-- Reads one part of a key. -/
def readKeyPart (cs : List Char) : Option (String × List Char) :=
  match cs with
  | '"' :: rest => readBasic (rest.length + 1) [] rest
  | '\'' :: rest => readLiteral [] rest
  | cs =>
    match cs.takeWhile isKeyChar with
    | [] => none
    | part => some (String.ofList part, cs.dropWhile isKeyChar)

/-- Reads a key: parts with dots between them, and blanks around each. -/
def readKeyParts : (fuel : Nat) → List Char → Option (List String × List Char)
  | 0, _ => none
  | fuel + 1, cs => do
    let (part, rest) ← readKeyPart (skipBlanks cs)
    match skipBlanks rest with
    | '.' :: rest =>
      let (parts, rest) ← readKeyParts fuel rest
      return (part :: parts, rest)
    | rest => return ([part], rest)

/-- Reads a key that has not too many parts. -/
def readKey (cs : List Char) : Option (List String × List Char) := do
  let (parts, rest) ← readKeyParts (cs.length + 1) cs
  if parts.length < levelLimit then some (parts, rest) else none

/-! ## Values -/

/-- Reads a string in any of its four forms. -/
def readString (cs : List Char) : Option (String × List Char) :=
  match cs with
  | '"' :: '"' :: '"' :: rest => readLongBasic (rest.length + 1) [] (skipFirstNewline rest)
  | '"' :: rest => readBasic (rest.length + 1) [] rest
  | '\'' :: '\'' :: '\'' :: rest => readLongLiteral (rest.length + 1) [] (skipFirstNewline rest)
  | '\'' :: rest => readLiteral [] rest
  | _ => none

/-- Reads a value without quotes and brackets. A date may be followed by a blank and a time. -/
def readWord (cs : List Char) : Option (Item × List Char) :=
  let word := cs.takeWhile isWordChar
  let rest := cs.dropWhile isWordChar
  if word = ['t', 'r', 'u', 'e'] then some (.flag true, rest)
  else if word = ['f', 'a', 'l', 's', 'e'] then some (.flag false, rest)
  else if isDate word then
    match rest with
    | ' ' :: c :: rest' =>
      if c.isDigit then
        let time := (c :: rest').takeWhile isWordChar
        if isTimeWithOffset time then some (.other, (c :: rest').dropWhile isWordChar) else none
      else some (.other, rest)
    | rest => some (.other, rest)
  else if isDateTime word || isTime word || isFloat word || isInteger word then
    some (.other, rest)
  else none

/-- The text behind blanks, line breaks and comments. A comment ends with its line. -/
def skipGaps : (fuel : Nat) → List Char → Option (List Char)
  | 0, _ => none
  | fuel + 1, cs =>
    match skipBlanks cs with
    | '#' :: rest =>
      match afterNewline? (skipComment rest) with
      | some rest => skipGaps fuel rest
      | none => none
    | rest =>
      match afterNewline? rest with
      | some rest => skipGaps fuel rest
      | none => some rest

mutual
/-- Reads a value inside `levels` lists and tables. `fuel` bounds the steps. -/
def readValue : (fuel : Nat) → (levels : Nat) → List Char → Option (Item × List Char)
  | 0, _, _ => none
  | fuel + 1, levels, cs =>
    match cs with
    | '[' :: rest =>
      if levels + 1 < levelLimit then do
        let rest ← skipGaps (rest.length + 1) rest
        match rest with
        | ']' :: rest => return (.array [], rest)
        | rest =>
          let (items, rest) ← readItems fuel (levels + 1) rest
          return (.array items, rest)
      else none
    | '\x7b' :: rest =>
      if levels + 1 < levelLimit then
        match skipBlanks rest with
        | '\x7d' :: rest => some (.inline [], rest)
        | rest => do
          let (entries, rest) ← readEntries fuel (levels + 1) [] rest
          return (.inline entries, rest)
      else none
    | '"' :: _ | '\'' :: _ => do
      let (s, rest) ← readString cs
      return (.text s, rest)
    | cs => readWord cs
/-- Reads the items of a list up to its closing bracket, which may follow a comma. -/
def readItems : (fuel : Nat) → (levels : Nat) → List Char → Option (List Item × List Char)
  | 0, _, _ => none
  | fuel + 1, levels, cs => do
    let (item, rest) ← readValue fuel levels cs
    let rest ← skipGaps (rest.length + 1) rest
    match rest with
    | ']' :: rest => return ([item], rest)
    | ',' :: rest =>
      let rest ← skipGaps (rest.length + 1) rest
      match rest with
      | ']' :: rest => return ([item], rest)
      | rest =>
        let (items, rest) ← readItems fuel levels rest
        return (item :: items, rest)
    | _ => none
/-- Reads the entries of a table between braces, on one line. -/
def readEntries : (fuel : Nat) → (levels : Nat) → Entries → List Char → Option (Entries × List Char)
  | 0, _, _, _ => none
  | fuel + 1, levels, entries, cs => do
    let (key, rest) ← readKey cs
    let '=' :: rest := rest | none
    let (item, rest) ← readValue fuel levels (skipBlanks rest)
    let entries ← addDotted item key entries
    match skipBlanks rest with
    | '\x7d' :: rest => return (entries, rest)
    | ',' :: rest => readEntries fuel levels entries rest
    | _ => none
end

/-! ## Documents -/

/-- The text behind the end of a line, which may hold a comment. -/
def afterLine? (cs : List Char) : Option (List Char) :=
  let rest := match skipBlanks cs with
    | '#' :: rest => skipComment rest
    | rest => rest
  match rest with
  | [] => some []
  | rest => afterNewline? rest

/-- Reads lines into the document `root`. Entries go into the table of the last header, `path`. -/
def readLines : (fuel : Nat) → (path : List String) → (root : Entries) → List Char → Option Entries
  | 0, _, _, _ => none
  | fuel + 1, path, root, cs =>
    match skipBlanks cs with
    | [] => some root
    | '[' :: '[' :: rest => do
      let (key, rest) ← readKey rest
      let ']' :: ']' :: rest := rest | none
      let root ← startTableInList key root
      readLines fuel key root (← afterLine? rest)
    | '[' :: rest => do
      let (key, rest) ← readKey rest
      let ']' :: rest := rest | none
      let root ← startTable key root
      readLines fuel key root (← afterLine? rest)
    | rest =>
      match afterLine? rest with
      | some rest => readLines fuel path root rest
      | none => do
        let (key, rest) ← readKey rest
        let '=' :: rest := rest | none
        let (item, rest) ← readValue (2 * rest.length + 2) 0 (skipBlanks rest)
        let root ← atHeader (addDotted item key) path root
        readLines fuel path root (← afterLine? rest)

/-- The text without the mark of its encoding in front. -/
def withoutMark : List Char → List Char
  | '\ufeff' :: rest => rest
  | cs => cs

/-- The entries of a document. -/
def read (s : String) : Option Entries :=
  let cs := withoutMark s.toList
  readLines (cs.length + 2) [] [] cs

end BoundaryGen.Toml
