-- Reading JSON from a text. Each reader gives what it found and the text that
-- follows, or no text once the document has broken; what was read before a
-- break is kept.
import BoundaryGen.Json.Basic
import BoundaryGen.Text.Numeral

namespace BoundaryGen.Json

open Text (hexValue digitsValue fitsDouble)

/-! ## Tokens -/

/-- The blanks of JSON: space, tab, line feed and carriage return. -/
def isSpace (c : Char) : Bool := c == ' ' || c == '\t' || c == '\n' || c == '\r'

/-- The text from its first character that is no blank. -/
def skipSpace (cs : List Char) : List Char := cs.dropWhile isSpace

/-- The number of four hexadecimal digits. -/
def hexUnit (a b c d : Char) : Option Nat := do
  let a ← hexValue a
  let b ← hexValue b
  let c ← hexValue c
  let d ← hexValue d
  return ((a * 16 + b) * 16 + c) * 16 + d

/-- The character of a one-letter escape. -/
def escaped : Char → Option Char
  | '"' => some '"'
  | '\\' => some '\\'
  | '/' => some '/'
  | 'b' => some '\x08'
  | 'f' => some '\x0c'
  | 'n' => some '\n'
  | 'r' => some '\r'
  | 't' => some '\t'
  | _ => none

/-- The first half of a surrogate pair. -/
def isHighHalf (unit : Nat) : Bool := 0xD800 ≤ unit && unit ≤ 0xDBFF

/-- The second half of a surrogate pair. -/
def isLowHalf (unit : Nat) : Bool := 0xDC00 ≤ unit && unit ≤ 0xDFFF

/-- The character of a surrogate pair. -/
def joinHalves (high low : Nat) : Char :=
  Char.ofNat (0x10000 + (high - 0xD800) * 0x400 + (low - 0xDC00))

/-- A piece of a written text: a character, or half of a surrogate pair. -/
inductive Piece where
  | char (c : Char)
  | half (unit : Nat)

/-- The piece that a four-digit escape stands for. -/
def Piece.ofUnit (unit : Nat) : Piece :=
  if isHighHalf unit || isLowHalf unit then .half unit else .char (Char.ofNat unit)

/-- Reads the inside of a text up to the closing quote. `done` holds the pieces read so far,
last first. -/
def readPieces (done : List Piece) : List Char → Option (List Piece × List Char)
  | [] => none
  | '"' :: rest => some (done.reverse, rest)
  | '\\' :: 'u' :: a :: b :: c :: d :: rest =>
    match hexUnit a b c d with
    | none => none
    | some unit => readPieces (Piece.ofUnit unit :: done) rest
  | '\\' :: e :: rest =>
    match escaped e with
    | none => none
    | some c => readPieces (.char c :: done) rest
  | c :: rest => if c.toNat < 0x20 then none else readPieces (.char c :: done) rest

/-- The characters of a text. Two halves that stand together are one character; a half that
stands alone makes the whole no text. `done` holds the characters so far, last first. -/
def joinPieces (done : List Char) : List Piece → Option (List Char)
  | [] => some done.reverse
  | .char c :: rest => joinPieces (c :: done) rest
  | .half high :: .half low :: rest =>
    if isHighHalf high && isLowHalf low then joinPieces (joinHalves high low :: done) rest
    else none
  | .half _ :: _ => none

/-- Reads the inside of a text, and what follows its closing quote. The text is none when half
of a surrogate pair stands alone in it. -/
def readText (cs : List Char) : Option (Option String × List Char) :=
  (readPieces [] cs).map fun (pieces, rest) => ((joinPieces [] pieces).map String.ofList, rest)

/-! ## Numbers -/

/-- The digits at the head of a text. -/
def digits (cs : List Char) : List Char := cs.takeWhile Char.isDigit

/-- The text behind the digits at its head. -/
def behindDigits (cs : List Char) : List Char := cs.dropWhile Char.isDigit

/-- The value of a number without fraction and exponent. -/
def integerOf (negative : Bool) (value : Nat) : Json :=
  if negative then
    if value == 0 then .real
    else if Int64.minValue.toInt ≤ -(value : Int) then .int (-(value : Int))
    else if fitsDouble value 0 then .real else .unread
  else if value < UInt64.size then .int value
  else if fitsDouble value 0 then .real else .unread

/-- Reads the exponent of a number whose digits before it are `mantissa`, of which `places`
stand behind the point. -/
def readExponent (mantissa : List Char) (places : Nat) (cs : List Char) :
    Json × Option (List Char) :=
  let (negative, cs) := match cs with
    | '+' :: rest => (false, rest)
    | '-' :: rest => (true, rest)
    | cs => (false, cs)
  if digits cs = [] then (.cut, none)
  else
    let value : Int := digitsValue 10 (digits cs)
    let exponent := (if negative then -value else value) - places
    (if fitsDouble (digitsValue 10 mantissa) exponent then .real else .unread,
      some (behindDigits cs))

/-- Reads what follows the digits `whole` of a number. -/
def readFraction (negative : Bool) (whole : List Char) (cs : List Char) :
    Json × Option (List Char) :=
  match cs with
  | '.' :: rest =>
    let places := digits rest
    if places = [] then (.cut, none)
    else match behindDigits rest with
      | 'e' :: rest' | 'E' :: rest' => readExponent (whole ++ places) places.length rest'
      | rest' =>
        (if fitsDouble (digitsValue 10 (whole ++ places)) (-(places.length : Int)) then .real
         else .unread, some rest')
  | 'e' :: rest | 'E' :: rest => readExponent whole 0 rest
  | rest => (integerOf negative (digitsValue 10 whole), some rest)

/-- Reads a number behind its sign. More than one digit does not start with a zero. -/
def readNumber (negative : Bool) (cs : List Char) : Json × Option (List Char) :=
  match digits cs with
  | [] => (.cut, none)
  | '0' :: _ :: _ => (.cut, none)
  | whole => readFraction negative whole (behindDigits cs)

/-! ## Values -/

mutual
/-- Reads one value. `fuel` bounds the steps. -/
def readValue : Nat → List Char → Json × Option (List Char)
  | 0, _ => (.cut, none)
  | fuel + 1, cs =>
    match skipSpace cs with
    | '"' :: rest =>
      match readText rest with
      | none => (.cut, none)
      | some (none, rest) => (.unread, some rest)
      | some (some s, rest) => (.text s, some rest)
    | '[' :: rest =>
      match skipSpace rest with
      | ']' :: rest => (.list [], some rest)
      | rest => let (items, rest) := readItems fuel rest; (.list items, rest)
    | '\x7b' :: rest =>
      match skipSpace rest with
      | '\x7d' :: rest => (.map [], some rest)
      | rest => let (entries, rest) := readEntries fuel rest; (.map entries, rest)
    | 't' :: 'r' :: 'u' :: 'e' :: rest => (.bool true, some rest)
    | 'f' :: 'a' :: 'l' :: 's' :: 'e' :: rest => (.bool false, some rest)
    | 'n' :: 'u' :: 'l' :: 'l' :: rest => (.null, some rest)
    | '-' :: rest => readNumber true rest
    | rest => readNumber false rest
/-- Reads the items of a list up to its closing bracket. -/
def readItems : Nat → List Char → List Json × Option (List Char)
  | 0, _ => ([.cut], none)
  | fuel + 1, cs =>
    match readValue fuel cs with
    | (item, none) => ([item], none)
    | (item, some rest) =>
      match skipSpace rest with
      | ',' :: rest => let (items, rest) := readItems fuel rest; (item :: items, rest)
      | ']' :: rest => ([item], some rest)
      | _ => ([item, .cut], none)
/-- Reads the entries of a map up to its closing brace. -/
def readEntries : Nat → List Char → List (String × Json) × Option (List Char)
  | 0, _ => ([("", .cut)], none)
  | fuel + 1, cs =>
    match skipSpace cs with
    | '"' :: rest =>
      match readText rest with
      | none => ([("", .cut)], none)
      | some (key?, rest) =>
        match skipSpace rest with
        | ':' :: rest =>
          let (value, rest) := readValue fuel rest
          let entry := match key? with
            | some key => [(key, value)]
            | none => [("", .unreadKey), ("", value)]
          match rest with
          | none => (entry, none)
          | some rest =>
            match skipSpace rest with
            | ',' :: rest => let (entries, rest) := readEntries fuel rest; (entry ++ entries, rest)
            | '\x7d' :: rest => (entry, some rest)
            | _ => (entry ++ [("", .cut)], none)
        | _ => ([(key?.getD "", .cut)], none)
    | _ => ([("", .cut)], none)
end

/-! ## Documents -/

/-- What a text holds: a value, and whether nothing but blanks follows it. -/
structure Document where
  value : Json
  ended : Bool

/-- Reads a text. -/
def read (s : String) : Document :=
  let cs := s.toList
  match readValue (2 * cs.length + 2) cs with
  | (value, none) => { value, ended := false }
  | (value, some rest) => { value, ended := (skipSpace rest).isEmpty }

end BoundaryGen.Json
