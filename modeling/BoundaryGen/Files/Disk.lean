-- What the program asks of a disk, and what it makes of the answers. A disk is
-- known by its operations alone, so the same commands run on the files of a
-- machine and on a tree of files in memory.
import BoundaryGen.Files.Path

namespace BoundaryGen

/-! ## Refusals -/

/-- Why a disk refuses something. -/
inductive IoError where
  | notFound
  | alreadyExists
  | notDirectory
  | isDirectory
  | notUtf8
  /-- Anything else, in the words of the system. -/
  | other (text : String)
  deriving DecidableEq, Repr

def IoError.message : IoError → String
  | .notFound => "No such file or directory (os error 2)"
  | .alreadyExists => "File exists (os error 17)"
  | .notDirectory => "Not a directory (os error 20)"
  | .isDirectory => "Is a directory (os error 21)"
  | .notUtf8 => "stream did not contain valid UTF-8"
  | .other text => text

/-! ## Operations -/

/-- Contents are compared byte by byte. -/
instance decidableEqBytes : DecidableEq ByteArray := ByteArray.instDecidableEq

inductive EntryKind where
  | file
  | directory
  deriving DecidableEq, Repr

/-- The names that lead from a directory to an entry below it. -/
abbrev Trail := List String

/-- The operations of a disk. -/
class Disk (m : Type → Type) where
  /-- What stands at a path. -/
  kind? (path : String) : m (Option EntryKind)
  /-- The content of a file. -/
  read (path : String) : ExceptT IoError m ByteArray
  /-- Puts content into a file, which comes to be when the directory around it is there. -/
  write (path : String) (content : ByteArray) : ExceptT IoError m Unit
  /-- Makes one directory inside another. -/
  makeDirectory (path : String) : ExceptT IoError m Unit
  /-- Where a directory stands, from the root of the disk. -/
  locate? (path : String) : m (Option Trail)
  /-- Every entry below a directory, hidden ones too, in no order. -/
  below (path : String) : m (List (Trail × EntryKind))

namespace Disk

variable {m : Type → Type} [Monad m] [Disk m]

/-! ## Asking -/

def isFile (path : String) : m Bool := return (← kind? path) = some .file

def isDirectory (path : String) : m Bool := return (← kind? path) = some .directory

/-- The content of a file, unless the disk refuses it. -/
def read? (path : String) : m (Option ByteArray) := do
  match ← (read path).run with
  | .ok content => return some content
  | .error _ => return none

/-- The text of a file. -/
def readText (path : String) : ExceptT IoError m String := do
  match String.fromUTF8? (← read path) with
  | some text => return text
  | none => throw .notUtf8

/-! ## Writing -/

/-- Makes the first of some directories, and before it those of the others that are not there. A
directory that is there already is fine; the empty path stands for one. -/
def makeEach : List String → ExceptT IoError m Unit
  | [] => throw (.other "failed to create whole tree")
  | path :: around => do
    if path.isEmpty then return
    let make : ExceptT IoError m Unit := tryCatch (makeDirectory path) fun e => do
      unless ← (isDirectory path : m Bool) do throw e
    tryCatch make fun
      | .notFound => do
        makeEach around
        make
      | e => throw e

/-- Makes a directory and the directories around it. -/
def makeDirectories (path : String) : ExceptT IoError m Unit := makeEach (Path.withParents path)

/-- Puts content into a file. The directories around it are made when they are not there. -/
def writeWithin (path : String) (content : ByteArray) : ExceptT IoError m Unit := do
  if let some around := Path.parent? path then makeDirectories around
  write path content

/-- Puts a text into a file unless it holds that text already, and says whether it was put. -/
def writeIfChanged (path text : String) : ExceptT IoError m Bool := do
  if (← (read? path : m (Option ByteArray))) = some text.toUTF8 then return false
  writeWithin path text.toUTF8
  return true

end Disk

end BoundaryGen
