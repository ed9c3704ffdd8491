-- A tree of files in memory, as a disk. The tree is a map from trails to
-- entries; its root is a directory that is always there and stands for the
-- working directory. A path is followed name by name, and every name but the
-- last must lead to a directory.
import BoundaryGen.Files.Disk
import BoundaryGen.OrderedMap

namespace BoundaryGen

inductive Entry where
  | directory
  | file (content : ByteArray)
  deriving DecidableEq

def Entry.kind : Entry → EntryKind
  | .directory => .directory
  | .file _ => .file

structure FileTree where
  /-- The entries below the root. -/
  entries : OrderedMap Trail Entry := .empty
  deriving DecidableEq

namespace FileTree

/-! ## Entries -/

def get? (t : FileTree) (trail : Trail) : Option Entry :=
  if trail.isEmpty then some .directory else t.entries.get? trail

/-- The tree with an entry at a trail. -/
def put (t : FileTree) (trail : Trail) (entry : Entry) : FileTree :=
  { t with entries := t.entries.insert trail entry }

/-- Nothing changes but at the trail of what is put. -/
theorem get?_put (t : FileTree) (trail : Trail) (entry : Entry) (other : Trail)
    (h : trail ≠ []) :
    (t.put trail entry).get? other = if other = trail then some entry else t.get? other := by
  by_cases ho : other = []
  · subst ho
    simp [get?, Ne.symm h]
  · simp [get?, put, ho, OrderedMap.get?_insert]

/-- A trail that leads to a directory. -/
def directoryAt (t : FileTree) (trail : Trail) : Except IoError Trail :=
  match t.get? trail with
  | some .directory => .ok trail
  | some (.file _) => .error .notDirectory
  | none => .error .notFound

/-- Where one name leads from a directory: two dots to the directory around it, a dot or an empty
name nowhere else. -/
def step (trail : Trail) (name : String) : Trail :=
  if name = ".." then trail.dropLast
  else if name = "." ∨ name = "" then trail
  else trail ++ [name]

/-- Where some names lead from a directory. -/
def follow (t : FileTree) (trail : Trail) : List String → Except IoError Trail
  | [] => .ok trail
  | name :: names => do follow t (step (← t.directoryAt trail) name) names

/-! ## Paths -/

/-- Where a path leads. There may be nothing at that place. -/
def resolve (t : FileTree) (path : String) : Except IoError Trail :=
  if path.isEmpty then .error .notFound else t.follow [] (Path.pieces path)

/-- Where a path leads, and the entry there. -/
def find (t : FileTree) (path : String) : Except IoError (Trail × Entry) := do
  let trail ← t.resolve path
  match t.get? trail with
  | some entry => return (trail, entry)
  | none => throw .notFound

/-- The place that a path gives to a new entry. -/
inductive Place where
  /-- The path names no place of its own, as a dot does not. -/
  | standing
  /-- The path ends in a slash, as only directories may. -/
  | directoryOnly (trail : Trail)
  | any (trail : Trail)

/-- The place of a new entry. The directory around it must be there. -/
def place (t : FileTree) (path : String) : Except IoError Place := do
  if path.isEmpty then throw .notFound
  let pieces := (Path.pieces path).reverse
  match pieces.dropWhile (· = "") with
  | [] => return .standing
  | name :: around =>
    let trail ← t.directoryAt (← t.follow [] around.reverse)
    if name = "." ∨ name = ".." then return .standing
    if pieces.head? = some "" then return .directoryOnly (trail ++ [name])
    return .any (trail ++ [name])

/-! ## Operations -/

def kind? (t : FileTree) (path : String) : Option EntryKind :=
  match t.find path with
  | .ok (_, entry) => some entry.kind
  | .error _ => none

def read (t : FileTree) (path : String) : Except IoError ByteArray := do
  match ← t.find path with
  | (_, .file content) => return content
  | (_, .directory) => throw .isDirectory

def write (t : FileTree) (path : String) (content : ByteArray) : Except IoError FileTree := do
  match ← t.place path with
  | .any trail =>
    if t.get? trail = some .directory then throw .isDirectory
    return t.put trail (.file content)
  | _ => throw .isDirectory

def makeDirectory (t : FileTree) (path : String) : Except IoError FileTree := do
  match ← t.place path with
  | .any trail | .directoryOnly trail =>
    if (t.get? trail).isSome then throw .alreadyExists
    return t.put trail .directory
  | .standing => throw .alreadyExists

/-- Takes away what stands at a path, with everything below it. -/
def remove (t : FileTree) (path : String) : Except IoError FileTree := do
  let (trail, _) ← t.find path
  return { t with entries := t.entries.filterKeys fun other => !trail.isPrefixOf other }

def locate? (t : FileTree) (path : String) : Option Trail :=
  match t.find path with
  | .ok (trail, .directory) => some trail
  | _ => none

/-- The entries strictly below a path. -/
def below (t : FileTree) (path : String) : List (Trail × EntryKind) :=
  match t.resolve path with
  | .error _ => []
  | .ok trail =>
    let inside := t.entries.entries.filter fun (other, _) =>
      trail.isPrefixOf other && trail.length < other.length
    inside.map fun (other, entry) => (other.drop trail.length, entry.kind)

/-! ## The tree as a disk -/

/-- An operation that reads the tree. -/
def reading {α : Type} (f : FileTree → Except IoError α) : ExceptT IoError (StateM FileTree) α :=
  ExceptT.mk fun t => (f t, t)

/-- An operation that changes the tree unless it is refused. -/
def changing (f : FileTree → Except IoError FileTree) : ExceptT IoError (StateM FileTree) Unit :=
  ExceptT.mk fun t => match f t with
    | .ok t => (.ok (), t)
    | .error e => (.error e, t)

instance : Disk (StateM FileTree) where
  kind? path := return (← get).kind? path
  read path := reading (·.read path)
  write path content := changing (·.write path content)
  makeDirectory path := changing (·.makeDirectory path)
  locate? path := return (← get).locate? path
  below path := return (← get).below path

end FileTree

end BoundaryGen
