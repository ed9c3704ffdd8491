-- Files of ignore rules, as git has them. A rule is a glob pattern over the
-- paths below the directory of its file. The last rule of a file that matches
-- decides, and rules nearer to an entry go before those farther away.
import BoundaryGen.Files.Disk
import BoundaryGen.Files.Glob
import BoundaryGen.Text.Blank

namespace BoundaryGen.Ignore

/-! ## Rules -/

inductive Verdict where
  /-- The entry is left out. -/
  | ignored
  /-- The entry is wanted, whatever rules farther away say. -/
  | wanted
  deriving DecidableEq, Repr

structure Rule where
  glob : List Glob.Piece
  verdict : Verdict
  directoriesOnly : Bool

/-- The bytes of a text, each of them as one character. Patterns and paths are compared byte by
byte. -/
def bytes (text : String) : List Char := text.toUTF8.toList.map fun b => Char.ofNat b.toNat

def Rule.matches (r : Rule) (path : String) (kind : EntryKind) : Bool :=
  Glob.isMatch r.glob (bytes path) && (!r.directoriesOnly || kind = .directory)

/-! ## Reading rules -/

/-- A line without the blanks at its end. A blank behind a backslash stays. -/
def trimLine (line : List Char) : List Char :=
  match line.reverse with
  | ' ' :: '\\' :: _ => line
  | _ => Text.trimEnd line

/-- The first character, when it is `c`, and what follows it. -/
def cut (c : Char) (line : List Char) : Bool × List Char :=
  match line with
  | d :: rest => if d = c then (true, rest) else (false, line)
  | [] => (false, [])

/-- Cuts a slash from the end, and a backslash that stands before it. -/
def cutSlash (line : List Char) : Bool × List Char :=
  match line.reverse with
  | '/' :: '\\' :: rest => (true, rest.reverse)
  | '/' :: rest => (true, rest.reverse)
  | _ => (false, line)

/-- The glob of a rule. A pattern without a slash matches at any depth, and two stars at the end
match what is inside a directory but not the directory. -/
def widen (anchored : Bool) (pattern : List Char) : List Char :=
  let stars := "**/".toList
  let deep := if anchored || pattern.contains '/' || pattern = "**".toList then pattern
    else stars ++ pattern
  if "/**".toList.isSuffixOf deep then deep ++ "/*".toList else deep

/-- The rule of a line that is no comment. -/
def Rule.ofPattern? (line : List Char) : Option Rule := do
  let escaped := "\\!".toList.isPrefixOf line || "\\#".toList.isPrefixOf line
  let (negated, line) := if escaped then (false, line.tail) else cut '!' line
  let (anchored, line) := if escaped then (false, line) else cut '/' line
  let (directoriesOnly, line) := cutSlash line
  let glob ← Glob.read? (widen anchored line)
  return { glob, directoriesOnly, verdict := if negated then .wanted else .ignored }

/-- The rule of a line. Comments, empty lines and malformed patterns have none. -/
def Rule.ofLine? (line : String) : Option Rule :=
  match trimLine line.toList with
  | [] => none
  | cs => if line.toList.head? = some '#' then none
    else Rule.ofPattern? (bytes (String.ofList cs))

/-! ## Files of rules -/

/-- Pieces of bytes between line ends. -/
def splitLines : List UInt8 → List (List UInt8)
  | [] => [[]]
  | b :: rest =>
    if b = 10 then [] :: splitLines rest
    else match splitLines rest with
      | line :: lines => (b :: line) :: lines
      | [] => [[b]]

/-- The lines of a file, up to the first that is no text. A carriage return before a line end
belongs to it. -/
def lines (content : ByteArray) : List String :=
  let texts := (splitLines content.toList).map fun line => String.fromUTF8? ⟨line.toArray⟩
  (texts.takeWhile Option.isSome).filterMap fun text => text.map fun s =>
    match s.toList.reverse with
    | '\r' :: rest => String.ofList rest.reverse
    | _ => s

/-- A mark of the byte order at the start of a file is no part of its first line. -/
def withoutMark : List String → List String
  | [] => []
  | first :: rest => String.ofList (first.toList.dropWhile (· = '\uFEFF')) :: rest

def rules (content : ByteArray) : List Rule :=
  (withoutMark (lines content)).filterMap Rule.ofLine?

/-- What a file of rules says about a path below its directory. -/
def verdict? (rules : List Rule) (path : String) (kind : EntryKind) : Option Verdict :=
  (rules.reverse.find? (·.matches path kind)).map (·.verdict)

/-! ## Directories with rules -/

/-- What a directory says about the entries below it. -/
structure RuleSet where
  /-- Where the directory stands. -/
  trail : Trail
  /-- The rules of `.ignore`. -/
  plain : List Rule := []
  /-- The rules of `.gitignore`. -/
  git : List Rule := []
  /-- The rules in the repository itself. -/
  repository : List Rule := []
  /-- Whether the directory is the top of a repository. -/
  isRepository : Bool := false

/-- The rule sets that stand in one repository: the nearest ones up to its top. Without a
repository there are none. -/
def withinRepository : List RuleSet → List RuleSet
  | [] => []
  | s :: around =>
    if s.isRepository then [s]
    else if around.any (·.isRepository) then s :: withinRepository around
    else []

/-- The verdict of the nearest directory that has one. -/
def nearest? (sets : List RuleSet) (rules : RuleSet → List Rule) (trail : Trail)
    (kind : EntryKind) : Option Verdict :=
  sets.findSome? fun s =>
    verdict? (rules s) ("/".intercalate (trail.drop s.trail.length)) kind

/-- What the directories around an entry say about it, the nearest of them first. -/
def decide? (sets : List RuleSet) (trail : Trail) (kind : EntryKind) : Option Verdict :=
  let inside := withinRepository sets
  nearest? sets (·.plain) trail kind
    <|> nearest? inside (·.git) trail kind
    <|> nearest? inside (·.repository) trail kind

end BoundaryGen.Ignore
