-- The files that a generation leaves on a disk: a source file for each unit and
-- the manifest. A file that holds its text already is not written again.
import BoundaryGen.Generation
import BoundaryGen.Loading
import BoundaryGen.Wrapper.Kotlin

namespace BoundaryGen

variable {m : Type → Type} [Monad m] [Disk m]

/-! ## Paths -/

/-- Where the source of a unit stands below a directory of output. -/
def WrapperUnit.path (out : String) (u : WrapperUnit) : String :=
  Path.join (Path.join out "kotlin") (Kotlin.relativePath u)

/-- Where the manifest stands below a directory of output. -/
def Config.manifestPath (c : Config) (out : String) : String :=
  Path.join (Path.join out "resources") c.manifestFile

/-! ## Writing -/

/-- Writes a text unless it is there already, and says whether it was written. -/
def writeIfChanged (path text : String) : ExceptT Error m Bool :=
  (Disk.writeIfChanged path text).adapt Error.io

/-- Writes a manifest, and says whether that went well. -/
def Manifest.write (manifest : Manifest) (path : String) : m Bool := do
  match ← (Disk.writeWithin path manifest.text.toUTF8).run with
  | .ok _ => return true
  | .error _ => return false

/-- What a generation did to a disk. -/
structure WriteSummary where
  /-- The paths of the units that were written. -/
  written : List String
  /-- The number of units that were there already. -/
  unchanged : Nat
  /-- The path of the manifest, unless it could not be written. -/
  manifest : Option String
  deriving DecidableEq, Repr

/-- Writes the units in their order, and tells for each path whether it was written. -/
def writeUnits (dataType out : String) (units : List WrapperUnit) :
    ExceptT Error m (List (String × Bool)) :=
  units.mapM fun u => do
    return (u.path out, ← writeIfChanged (u.path out) (Kotlin.source dataType u))

/-- Writes the manifest unless it is there already, and gives its path when it is there in the
end. -/
def placeManifest (manifest : Manifest) (path : String) : m (Option String) := do
  if (← Disk.read? path) = some manifest.text.toUTF8 then return some path
  if ← manifest.write path then return some path
  return none

/-- Writes the files of a generation. A unit that cannot be written ends the writing; a manifest
that cannot be written does not. -/
def Generation.write (g : Generation) (config : Config) (out : String) :
    ExceptT Error m WriteSummary := do
  let outcomes ← writeUnits config.retrieverDataType out g.units
  let manifest ← (placeManifest g.manifest (config.manifestPath out) : m _)
  return {
    written := (outcomes.filter (·.2)).map (·.1)
    unchanged := (outcomes.filter (!·.2)).length
    manifest }

end BoundaryGen
