-- Paths as texts. A path is read as parts with slashes between them; a path
-- that starts with a slash is absolute. Paths are kept as they were given.

namespace BoundaryGen.Path

/-! ## Parts -/

/-- The pieces of a text between the characters that are `mark`. -/
def splitAt (mark : Char) : List Char → List (List Char)
  | [] => [[]]
  | c :: rest =>
    if c = mark then [] :: splitAt mark rest
    else match splitAt mark rest with
      | [] => [[c]]
      | piece :: pieces => (c :: piece) :: pieces

/-- What stands between the slashes of a path, blank pieces too. -/
def pieces (path : String) : List String := (splitAt '/' path.toList).map String.ofList

def isAbsolute (path : String) : Bool := path.toList.head? = some '/'

/-- The parts of a path in its order. Empty parts mean nothing, and a dot means nothing but at the
start of a relative path. -/
def parts (path : String) : List String :=
  let kept := (pieces path).filter fun p => p ≠ "" ∧ p ≠ "."
  if (pieces path).head? = some "." then "." :: kept else kept

/-- The order of paths, part by part. -/
def notAfter (a b : String) : Bool := ¬ parts b < parts a

/-! ## Putting paths together -/

/-- A path below a directory. An absolute path stands for itself. -/
def join (directory path : String) : String :=
  if isAbsolute path || directory.isEmpty then path
  else if directory.toList.getLast? = some '/' then directory ++ path
  else directory ++ "/" ++ path

/-- A path that goes on from a directory, the first part outermost. -/
def extend (directory : String) (parts : List String) : String := parts.foldl join directory

/-- A path of parts, the first of them outermost. -/
def ofParts (parts : List String) : String := extend "" parts

/-- The path of parts from the root of the disk. -/
def ofRoot (parts : List String) : String := extend "/" parts

/-! ## Taking paths apart -/

/-- Cuts the slashes, and the dots between slashes, at the end of a path whose characters stand in
reverse. -/
def cutEnd : List Char → List Char
  | '/' :: rest => cutEnd rest
  | '.' :: '/' :: rest => cutEnd ('/' :: rest)
  | cs => cs

/-- The path of the directory that holds a path. The empty path and the root have none. -/
def parent? (path : String) : Option String :=
  let reversed := cutEnd path.toList.reverse
  match reversed with
  | [] => none
  | reversed =>
    let above := reversed.dropWhile (· ≠ '/')
    match cutEnd above with
    | [] => some (if above.isEmpty then "" else "/")
    | kept => some (String.ofList kept.reverse)

/-- A path with the paths of the directories around it, the innermost first. -/
def withParents (path : String) : List String := go path.length path
where
  /-- Each parent is shorter than its path, so there are no more of them than characters. -/
  go : Nat → String → List String
    | 0, path => [path]
    | n + 1, path => path :: match parent? path with
      | some above => go n above
      | none => []

/-- The last part of a path, unless it is a dot or two dots. -/
def fileName? (path : String) : Option String :=
  match (parts path).getLast? with
  | some ".." | some "." => none
  | name? => name?

/-- The part of a file name behind its last dot. A dot at the start of the name does not count. -/
def extension? (path : String) : Option String := do
  let name ← fileName? path
  let reversed := name.toList.reverse
  let ending := reversed.takeWhile (· ≠ '.')
  match reversed.dropWhile (· ≠ '.') with
  | _ :: _ :: _ => some (String.ofList ending.reverse)
  | _ => none

example : join "out" "kotlin" = "out/kotlin" ∧ join "./o/" "kotlin" = "./o/kotlin"
    ∧ join "out" "" = "out/" ∧ join "" "a" = "a" ∧ join "a" "/b" = "/b" := by decide

example : parent? "a/b" = some "a" ∧ parent? "a" = some "" ∧ parent? "./a" = some "."
    ∧ parent? "a//b/" = some "a" ∧ parent? "a/./b" = some "a" ∧ parent? "/a" = some "/"
    ∧ parent? "" = none ∧ parent? "/" = none := by decide

example : withParents "a/b" = ["a/b", "a", ""] := by decide

example : extension? "d/a.b.json" = some "json" ∧ extension? ".json" = none
    ∧ extension? "a." = some "" ∧ extension? "a" = none := by decide

end BoundaryGen.Path
