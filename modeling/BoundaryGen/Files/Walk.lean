-- The files below a directory that are meant to be seen. Hidden entries and
-- ignored ones are left out, with everything below them; the directory that the
-- walk starts from is always seen.
import BoundaryGen.Files.Ignore

namespace BoundaryGen.Walk

open Ignore (RuleSet)

/-! ## What is seen -/

/-- The rule sets of the directories around an entry, the nearest first. -/
def setsAround (sets : List RuleSet) (trail : Trail) : List RuleSet :=
  (List.range trail.length).reverse.filterMap fun n => sets.find? (·.trail = trail.take n)

/-- A name with a dot in front is hidden. -/
def isHidden (trail : Trail) : Bool :=
  match trail.getLast? with
  | some name => name.toList.head? = some '.'
  | none => false

/-- Whether an entry is left out of its directory. A rule that wants an entry shows it even when it
is hidden. -/
def isLeftOut (sets : List RuleSet) (trail : Trail) (kind : EntryKind) : Bool :=
  match Ignore.decide? (setsAround sets trail) trail kind with
  | some .ignored => true
  | some .wanted => false
  | none => isHidden trail

/-- Whether a file is seen from the directory at `root`: neither it nor a directory between is left
out. -/
def isSeen (sets : List RuleSet) (root below : Trail) : Bool :=
  (List.range below.length).all fun n =>
    let kind := if n + 1 = below.length then EntryKind.file else .directory
    !isLeftOut sets (root ++ below.take (n + 1)) kind

/-! ## Walking a disk -/

variable {m : Type → Type} [Monad m] [Disk m]

/-- The rules of a file, when there is one. -/
def rulesAt (path : String) : m (List Ignore.Rule) := do
  match ← Disk.read? path with
  | some content => return Ignore.rules content
  | none => return []

/-- What the directory at a trail from the root of the disk says about the entries below it. -/
def ruleSetAt (trail : Trail) : m RuleSet := do
  let path (name : String) : String := Path.join (Path.ofRoot trail) name
  return {
    trail
    plain := ← rulesAt (path ".ignore")
    git := ← rulesAt (path ".gitignore")
    repository := ← rulesAt (path ".git/info/exclude")
    isRepository := (← Disk.kind? (path ".git")).isSome }

/-- The trails of the directories whose rules a walk obeys: those around its root, the root, and
those below it. -/
def ruleTrails (root : Trail) (entries : List (Trail × EntryKind)) : List Trail :=
  let around := (List.range (root.length + 1)).map root.take
  let inside := (entries.filter fun e => e.2 = .directory).map fun e => root ++ e.1
  around ++ inside

/-- The files that are seen from a path, in no order. A file is seen from itself. -/
def filesBelow (path : String) : m (List String) := do
  match ← Disk.kind? path with
  | none => return []
  | some .file => return [path]
  | some .directory =>
    let root := (← Disk.locate? path).getD []
    let entries ← Disk.below path
    let sets ← (ruleTrails root entries).mapM ruleSetAt
    let files := (entries.filter fun e => e.2 = .file).map (·.1)
    return (files.filter (isSeen sets root)).map (Path.extend path)

end BoundaryGen.Walk
