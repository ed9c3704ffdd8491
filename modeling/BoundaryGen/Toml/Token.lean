-- The words of TOML: strings in their four forms, and the words that are
-- written without quotes, which are numbers, dates and times, or flags. A word
-- that breaks the rules of TOML gives nothing.
import BoundaryGen.Text.Numeral

namespace BoundaryGen.Toml

open Text (hexValue digitsValue fitsDouble)

/-! ## Characters -/

/-- The blanks inside a line. -/
def isBlank (c : Char) : Bool := c == ' ' || c == '\t'

def skipBlanks (cs : List Char) : List Char := cs.dropWhile isBlank

/-- The text behind a line break: a line feed, or a carriage return and a line feed. -/
def afterNewline? : List Char → Option (List Char)
  | '\n' :: rest => some rest
  | '\r' :: '\n' :: rest => some rest
  | _ => none

/-- A character that may stand in a comment or a string: no control character but the tab. -/
def isPlain (c : Char) : Bool := c == '\t' || (0x20 ≤ c.toNat && c.toNat ≠ 0x7F)

/-- The text behind the characters of a comment. -/
def skipComment (cs : List Char) : List Char := cs.dropWhile isPlain

/-! ## Strings -/

/-- The number that hexadecimal digits write. -/
def hexNumber (cs : List Char) : Option Nat :=
  cs.foldlM (fun n c => (hexValue c).map (n * 16 + ·)) 0

/-- The character whose number is written in exactly `count` hexadecimal digits. -/
def numbered (count : Nat) (cs : List Char) : Option (Char × List Char) := do
  let written := cs.take count
  if written.length ≠ count then none
  let n ← hexNumber written
  if n.isValidChar then some (Char.ofNat n, cs.drop count) else none

/-- The character of an escape behind its backslash. -/
def readEscape : List Char → Option (Char × List Char)
  | 'b' :: rest => some ('\x08', rest)
  | 't' :: rest => some ('\t', rest)
  | 'n' :: rest => some ('\n', rest)
  | 'f' :: rest => some ('\x0c', rest)
  | 'r' :: rest => some ('\r', rest)
  | '"' :: rest => some ('"', rest)
  | '\\' :: rest => some ('\\', rest)
  | 'u' :: rest => numbered 4 rest
  | 'U' :: rest => numbered 8 rest
  | _ => none

/-- Reads a basic string behind its opening quote. `done` holds the characters read so far, last
first. `fuel` bounds the steps. -/
def readBasic : (fuel : Nat) → (done : List Char) → List Char → Option (String × List Char)
  | 0, _, _ | _, _, [] => none
  | _ + 1, done, '"' :: rest => some (String.ofList done.reverse, rest)
  | fuel + 1, done, '\\' :: rest => do
    let (c, rest) ← readEscape rest
    readBasic fuel (c :: done) rest
  | fuel + 1, done, c :: rest => if isPlain c then readBasic fuel (c :: done) rest else none

/-- Reads a literal string behind its opening quote. -/
def readLiteral : (done : List Char) → List Char → Option (String × List Char)
  | _, [] => none
  | done, '\'' :: rest => some (String.ofList done.reverse, rest)
  | done, c :: rest => if isPlain c then readLiteral (c :: done) rest else none

/-- The end of a string of several lines, at a run of quotes: up to two of them belong to the
string, the last three close it. -/
def closing (quote : Char) (done cs : List Char) : Option (String × List Char) :=
  let run := (cs.takeWhile (· = quote)).length
  if run ≤ 5 then
    some (String.ofList (List.replicate (run - 3) quote ++ done).reverse, cs.drop run)
  else none

/-- The text behind line breaks and blanks. -/
def skipLines : (fuel : Nat) → List Char → List Char
  | 0, cs => cs
  | fuel + 1, cs =>
    match afterNewline? (skipBlanks cs) with
    | some rest => skipLines fuel rest
    | none => skipBlanks cs

/-- Reads a basic string of several lines behind its opening quotes. A backslash at the end of a
line joins it to the next text that is not blank. -/
def readLongBasic : (fuel : Nat) → (done : List Char) → List Char → Option (String × List Char)
  | 0, _, _ | _, _, [] => none
  | fuel + 1, done, '"' :: rest =>
    match rest with
    | '"' :: '"' :: _ => closing '"' done ('"' :: rest)
    | _ => readLongBasic fuel ('"' :: done) rest
  | fuel + 1, done, '\\' :: rest =>
    match afterNewline? (skipBlanks rest) with
    | some rest => readLongBasic fuel done (skipLines rest.length rest)
    | none => do
      let (c, rest) ← readEscape rest
      readLongBasic fuel (c :: done) rest
  | fuel + 1, done, c :: rest =>
    match afterNewline? (c :: rest) with
    | some rest => readLongBasic fuel ('\n' :: done) rest
    | none => if isPlain c then readLongBasic fuel (c :: done) rest else none

/-- Reads a literal string of several lines behind its opening quotes. -/
def readLongLiteral : (fuel : Nat) → (done : List Char) → List Char → Option (String × List Char)
  | 0, _, _ | _, _, [] => none
  | fuel + 1, done, '\'' :: rest =>
    match rest with
    | '\'' :: '\'' :: _ => closing '\'' done ('\'' :: rest)
    | _ => readLongLiteral fuel ('\'' :: done) rest
  | fuel + 1, done, c :: rest =>
    match afterNewline? (c :: rest) with
    | some rest => readLongLiteral fuel ('\n' :: done) rest
    | none => if isPlain c then readLongLiteral fuel (c :: done) rest else none

/-- The text without the line break that may follow the opening quotes of a string of several
lines. -/
def skipFirstNewline (cs : List Char) : List Char := (afterNewline? cs).getD cs

/-! ## Words -/

/-- A character of a word without quotes. -/
def isWordChar (c : Char) : Bool :=
  c.isAlphanum || c == '+' || c == '-' || c == '_' || c == '.' || c == ':'

/-- Digits of a kind with single underscores between them; at least one. Gives them without the
underscores. -/
def spacedDigits (isDigit : Char → Bool) : List Char → Option (List Char)
  | [] => none
  | [c] => if isDigit c then some [c] else none
  | c :: '_' :: rest => if isDigit c then (c :: ·) <$> spacedDigits isDigit rest else none
  | c :: rest => if isDigit c then (c :: ·) <$> spacedDigits isDigit rest else none

/-- The digits of a decimal number, which does not start with a zero unless it is zero. -/
def decimalDigits (cs : List Char) : Option (List Char) :=
  match cs with
  | '0' :: _ :: _ => none
  | cs => spacedDigits Char.isDigit cs

/-- Whether there is a minus in front, and the word behind its sign. -/
def readSign : List Char → Bool × List Char
  | '+' :: rest => (false, rest)
  | '-' :: rest => (true, rest)
  | cs => (false, cs)

/-- Whole numbers have 64 bits with sign. In another base than ten they have no sign. -/
def isInteger (cs : List Char) : Bool :=
  let inBase (base : Nat) (isDigit : Char → Bool) (cs : List Char) : Bool :=
    match spacedDigits isDigit cs with
    | some ds => digitsValue base ds ≤ Int64.maxValue.toInt
    | none => false
  match cs with
  | '0' :: 'x' :: rest => inBase 16 (fun c => (hexValue c).isSome) rest
  | '0' :: 'o' :: rest => inBase 8 (fun c => '0' ≤ c && c ≤ '7') rest
  | '0' :: 'b' :: rest => inBase 2 (fun c => c = '0' || c = '1') rest
  | cs =>
    let (negative, cs) := readSign cs
    match decimalDigits cs with
    | some ds =>
      if negative then Int64.minValue.toInt ≤ -(digitsValue 10 ds : Int)
      else digitsValue 10 ds ≤ Int64.maxValue.toInt
    | none => false

/-- Whether a number with these digits, of which `places` stand behind the point, and this
exponent is no positive infinity. -/
def staysFinite (negative : Bool) (digits : List Char) (places : Nat) (exponent : Int) : Bool :=
  negative || fitsDouble (digitsValue 10 digits) (exponent - places)

/-- The exponent of a number, without its letter. -/
def exponentOf (cs : List Char) : Option Int :=
  let (negative, cs) := readSign cs
  (spacedDigits Char.isDigit cs).map fun ds =>
    if negative then -(digitsValue 10 ds : Int) else digitsValue 10 ds

/-- Numbers with a fraction or an exponent, infinity, and what is no number. -/
def isFloat (cs : List Char) : Bool :=
  let (negative, cs) := readSign cs
  if cs = ['i', 'n', 'f'] || cs = ['n', 'a', 'n'] then true
  else
    let isE (c : Char) : Bool := c = 'e' || c = 'E'
    let mantissa := cs.takeWhile (!isE ·)
    let exponent? : Option (Option Int) := match cs.dropWhile (!isE ·) with
      | [] => some none
      | _ :: rest => (exponentOf rest).map some
    let whole := mantissa.takeWhile (· ≠ '.')
    match decimalDigits whole, mantissa.dropWhile (· ≠ '.'), exponent? with
    | some ds, [], some (some e) => staysFinite negative ds 0 e
    | some ds, _ :: fraction, some e? =>
      match spacedDigits Char.isDigit fraction with
      | some fs => staysFinite negative (ds ++ fs) fs.length (e?.getD 0)
      | none => false
    | _, _, _ => false

/-! ## Dates and times -/

/-- The number of exactly `count` digits, and the word behind them. -/
def fixedDigits (count : Nat) (cs : List Char) : Option (Nat × List Char) :=
  let ds := cs.take count
  if ds.length = count ∧ ds.all Char.isDigit then some (digitsValue 10 ds, cs.drop count) else none

/-- The days of a month. -/
def daysIn (year month : Nat) : Nat :=
  if month = 2 then
    if year % 4 = 0 ∧ (year % 100 ≠ 0 ∨ year % 400 = 0) then 29 else 28
  else if month = 4 ∨ month = 6 ∨ month = 9 ∨ month = 11 then 30
  else 31

/-- The word behind a date. -/
def afterDate? (cs : List Char) : Option (List Char) := do
  let (year, rest) ← fixedDigits 4 cs
  let '-' :: rest := rest | none
  let (month, rest) ← fixedDigits 2 rest
  let '-' :: rest := rest | none
  let (day, rest) ← fixedDigits 2 rest
  if 1 ≤ month ∧ month ≤ 12 ∧ 1 ≤ day ∧ day ≤ daysIn year month then some rest else none

/-- The word behind hours and minutes. -/
def afterMinutes? (cs : List Char) : Option (List Char) := do
  let (hour, rest) ← fixedDigits 2 cs
  let ':' :: rest := rest | none
  let (minute, rest) ← fixedDigits 2 rest
  if hour ≤ 23 ∧ minute ≤ 59 then some rest else none

/-- The word behind a time. -/
def afterTime? (cs : List Char) : Option (List Char) := do
  let rest ← afterMinutes? cs
  let ':' :: rest := rest | none
  let (second, rest) ← fixedDigits 2 rest
  if 60 < second then none
  match rest with
  | '.' :: rest =>
    match rest.takeWhile Char.isDigit with
    | [] => none
    | _ => some (rest.dropWhile Char.isDigit)
  | rest => some rest

/-- Whether a word is a distance from universal time, or empty. -/
def isOffset : List Char → Bool
  | [] | ['Z'] | ['z'] => true
  | '+' :: rest | '-' :: rest => afterMinutes? rest = some []
  | _ => false

/-- Whether a word is a time with its distance from universal time. -/
def isTimeWithOffset (cs : List Char) : Bool :=
  match afterTime? cs with
  | some rest => isOffset rest
  | none => false

/-- Whether a word is a date alone. -/
def isDate (cs : List Char) : Bool := afterDate? cs = some []

/-- Whether a word is a date and a time with the letter T between them. -/
def isDateTime (cs : List Char) : Bool :=
  match afterDate? cs with
  | some ('T' :: rest) | some ('t' :: rest) => isTimeWithOffset rest
  | _ => false

/-- Whether a word is a time alone. -/
def isTime (cs : List Char) : Bool := afterTime? cs = some []

end BoundaryGen.Toml
