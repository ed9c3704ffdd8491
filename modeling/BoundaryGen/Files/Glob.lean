-- Glob patterns over paths. A star and a question mark never match a slash; two
-- stars that fill a whole part of the pattern match any number of directories.

namespace BoundaryGen.Glob

/-! ## Pieces -/

inductive Piece where
  | literal (c : Char)
  /-- One character that is no slash: `?`. -/
  | any
  /-- One character of some ranges, or of none of them: `[a-z]`, `[!a-z]`. -/
  | oneOf (negated : Bool) (ranges : List (Char × Char))
  /-- Any run of characters that are no slashes: `*`. -/
  | run
  /-- Any directories in front of the rest: `**/` at the start. -/
  | leading
  /-- Any directories between two parts: `/**/`. -/
  | between
  /-- Everything inside a directory: `/**` at the end. -/
  | trailing
  /-- One of some choices: `{a,b}`. -/
  | group (choices : List (List Piece))

/-! ## Matching -/

/-- A text and all its ends. -/
def ends : List Char → List (List Char)
  | [] => [[]]
  | c :: rest => (c :: rest) :: ends rest

/-- What may remain of a text behind a run without a slash. -/
def endsOfPart : List Char → List (List Char)
  | [] => [[]]
  | c :: rest => (c :: rest) :: if c = '/' then [] else endsOfPart rest

/-- What stands behind each slash of a text. -/
def behindSlashes : List Char → List (List Char)
  | [] => []
  | c :: rest => if c = '/' then rest :: behindSlashes rest else behindSlashes rest

mutual
/-- What may remain of a text behind a piece at its start. -/
def rests : Piece → List Char → List (List Char)
  | .literal c, d :: text => if d = c then [text] else []
  | .any, d :: text => if d = '/' then [] else [text]
  | .oneOf negated ranges, d :: text =>
    if (ranges.any fun (low, high) => low ≤ d && d ≤ high) = negated then [] else [text]
  | .run, text => endsOfPart text
  | .leading, text => text :: behindSlashes text
  | .between, '/' :: text => text :: behindSlashes text
  | .trailing, '/' :: text => ends text
  | .group choices, text =>
    if choices.all List.isEmpty then [text] else restsOfChoices choices text
  | _, _ => []
/-- What may remain behind some pieces one after the other. -/
def restsOfPieces : List Piece → List Char → List (List Char)
  | [], text => [text]
  | p :: ps, text => (rests p text).flatMap (restsOfPieces ps)
/-- What may remain behind one of some choices. A choice without pieces is none. -/
def restsOfChoices : List (List Piece) → List Char → List (List Char)
  | [], _ => []
  | ps :: choices, text =>
    (if ps.isEmpty then [] else restsOfPieces ps text) ++ restsOfChoices choices text
end

/-- Whether a pattern matches the whole of a text. The pattern of two stars alone matches every
text. -/
def isMatch (pieces : List Piece) (text : List Char) : Bool :=
  match pieces with
  | [.leading] => true
  | pieces => (restsOfPieces pieces text).any List.isEmpty

/-! ## Reading -/

/-- The ranges of a class, last first. A range that runs backwards is refused. -/
def readRanges : List (Char × Char) → List Char → Option (List (Char × Char))
  | ranges, [] => some ranges
  | (low, _) :: ranges, '-' :: high :: rest =>
    if high < low then none else readRanges ((low, high) :: ranges) rest
  | ranges, c :: rest => readRanges ((c, c) :: ranges) rest

/-- A class behind its opening bracket, up to its closing bracket. A closing bracket that comes
first stands for itself. -/
def readClass (negated : Bool) : List Char → Option (Piece × List Char)
  | [] => none
  | first :: rest =>
    match rest.dropWhile (· ≠ ']') with
    | [] => none
    | _ :: after =>
      (readRanges [] (first :: rest.takeWhile (· ≠ ']'))).map fun ranges =>
        (.oneOf negated ranges, after)

theorem length_of_readClass {negated : Bool} {text after : List Char} {p : Piece}
    (h : readClass negated text = some (p, after)) : after.length < text.length := by
  cases text with
  | nil => simp [readClass] at h
  | cons first rest =>
    simp only [readClass] at h
    split at h
    · simp at h
    · rename_i c tail hd
      obtain ⟨_, _, h⟩ := Option.map_eq_some_iff.mp h
      have hl := (List.dropWhile_sublist (fun c => decide (c ≠ ']')) (l := rest)).length_le
      rw [hd] at hl
      cases h
      simp only [List.length_cons] at hl ⊢
      omega

/-- A group that is open: the pieces before it, and its finished choices, both last first. -/
structure Frame where
  before : List Piece
  choices : List (List Piece)

/-- A pattern that is partly read. -/
structure Reading where
  /-- The pieces of the choice that is being read, last first. -/
  pieces : List Piece := []
  /-- The open groups, innermost first. -/
  frames : List Frame := []
  /-- The character before. -/
  previous : Option Char := none

namespace Reading

def push (r : Reading) (c : Char) (p : Piece) : Reading :=
  { r with pieces := p :: r.pieces, previous := some c }

/-- Two stars that fill a part. The slash before them belongs to them, and directories that they
match already are not matched again. -/
def pushStars (r : Reading) (last : Char) (p : Piece) : Reading :=
  match r.pieces with
  | .leading :: _ | .trailing :: _ => { r with previous := some last }
  | _ :: before => { r with pieces := p :: before, previous := some last }
  | [] => r

/-- Two stars inside a part. -/
def pushRuns (r : Reading) : Reading := (r.push '*' .run).push '*' .run

def openGroup (r : Reading) : Reading :=
  { pieces := [], frames := ⟨r.pieces, []⟩ :: r.frames, previous := some '{' }

/-- Ends a choice of the innermost group. -/
def endChoice (r : Reading) : Reading :=
  match r.frames with
  | [] => r.push ',' (.literal ',')
  | f :: frames =>
    { pieces := [], frames := { f with choices := r.pieces.reverse :: f.choices } :: frames,
      previous := some ',' }

def closeGroup? (r : Reading) : Option Reading :=
  match r.frames with
  | [] => none
  | f :: frames =>
    let choices := (r.pieces.reverse :: f.choices).reverse
    some { pieces := .group choices :: f.before, frames, previous := some '}' }

/-- Two stars, before the text that follows them. A choice or a pattern may start with them, or
they follow a slash; either way a slash or an end follows them. -/
def stars (r : Reading) (text : List Char) : Reading × List Char :=
  if r.pieces.isEmpty then
    match text with
    | '/' :: rest => (r.push '/' .leading, rest)
    | [] => (r.push '*' .leading, [])
    | c :: rest => (r.pushRuns, c :: rest)
  else if r.previous = some '/' then
    match text with
    | '/' :: rest => (r.pushStars '/' .between, rest)
    | [] => (r.pushStars '*' .trailing, [])
    | c :: rest =>
      if !r.frames.isEmpty && (c = ',' || c = '}') then (r.pushStars '*' .trailing, c :: rest)
      else (r.pushRuns, c :: rest)
  else (r.pushRuns, text)

theorem length_stars (r : Reading) (text : List Char) : (r.stars text).2.length ≤ text.length := by
  unfold stars
  repeat' split
  all_goals simp

end Reading

/-- Reads the rest of a pattern. -/
def readFrom (r : Reading) : List Char → Option (List Piece)
  | [] => if r.frames.isEmpty then some r.pieces.reverse else none
  | '\\' :: c :: rest => readFrom (r.push c (.literal c)) rest
  | '\\' :: [] => none
  | '*' :: '*' :: rest =>
    have := r.length_stars rest
    readFrom (r.stars rest).1 (r.stars rest).2
  | '*' :: rest => readFrom (r.push '*' .run) rest
  | '?' :: rest => readFrom (r.push '?' .any) rest
  | '[' :: rest =>
    let negated := rest.head? = some '!' || rest.head? = some '^'
    match h : readClass negated (if negated then rest.tail else rest) with
    | some (p, after) =>
      have := length_of_readClass h
      have : (if negated then rest.tail else rest).length ≤ rest.length := by
        split <;> simp
      readFrom (r.push ']' p) after
    | none => none
  | '{' :: rest => readFrom r.openGroup rest
  | ',' :: rest => readFrom r.endChoice rest
  | '}' :: rest =>
    match r.closeGroup? with
    | some r => readFrom r rest
    | none => none
  | c :: rest => readFrom (r.push c (.literal c)) rest
  termination_by text => text.length
  decreasing_by all_goals simp only [List.length_cons]; omega

/-- The pieces of a pattern, unless it is malformed. -/
def read? (pattern : List Char) : Option (List Piece) := readFrom {} pattern

/-- Whether the pattern that a text writes matches another text. -/
def accepts (pattern text : String) : Bool :=
  match read? pattern.toList with
  | some pieces => isMatch pieces text.toList
  | none => false

example : ["a.json", "d/e/a.json", "d/a"].map (accepts "**/*.json") = [true, true, false] := by cbv

example : ["a/b", "a/x/y/b", "a/xb"].map (accepts "a/**/b") = [true, true, false] := by cbv

example : ["a/b/c", "a"].map (accepts "a/**") = [true, false] := by cbv

example : ["bz", "dz", "b"].map (accepts "[a-c]?") = [true, false, false] := by cbv

example : ["a.x", "bcd.x", ".x"].map (accepts "{a,b*}.x") = [true, true, false] := by cbv

example : accepts "\\*" "*" = true ∧ accepts "[z-a]" "m" = false := by cbv

end BoundaryGen.Glob
