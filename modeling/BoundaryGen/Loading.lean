-- Snapshots, configurations and manifests from a disk. A snapshot is one
-- document, or all the documents that are seen below a directory put together.
import BoundaryGen.Error
import BoundaryGen.Files.Walk

namespace BoundaryGen

variable {m : Type → Type} [Monad m] [Disk m]

/-- The text of a file. -/
def readText (path : String) : ExceptT Error m String := (Disk.readText path).adapt Error.io

/-! ## Snapshots -/

/-- Snapshot documents are JSON files whose names are not skipped. -/
def isSnapshotFile (skip : List String) (path : String) : Bool :=
  Path.extension? path = some "json" && !(Path.fileName? path).any skip.contains

/-- The snapshot documents that are seen from a path, in the order of their paths. -/
def snapshotFiles (skip : List String) (path : String) : m (List String) := do
  let files ← Walk.filesBelow path
  return (files.filter (isSnapshotFile skip)).mergeSort Path.notAfter

/-- The source files of one snapshot document. -/
def readSourceFiles (path : String) : ExceptT Error m (List SourceFile) := do
  let text ← readText path
  liftExcept ((Json.Decoder.ofText SourceFile.documentDecoder text).mapError
    (Error.snapshotInvalid path))

/-- The source files of every document at a path. -/
def collectSourceFiles (skip : List String) (path : String) :
    ExceptT Error m (List SourceFile) := do
  match ← (Disk.kind? path : m _) with
  | some .directory =>
    let documents ← (← (snapshotFiles skip path : m _)).mapM readSourceFiles
    return documents.flatten
  | some .file => readSourceFiles path
  | none => throw (.snapshotMissing path)

/-- The snapshot at a path. -/
def Snapshot.load (skip : List String) (path : String) : ExceptT Error m Snapshot := do
  let files ← collectSourceFiles skip path
  liftExcept ((Snapshot.ofFiles files).mapError Error.unnamed)

/-! ## Configurations -/

namespace Config

/-- The configuration in a TOML file. -/
def load (path : String) : ExceptT Error m Config := do
  let text ← (Disk.readText path).adapt (Error.configUnreadable path)
  match Config.ofToml text with
  | some config => return config
  | none => throw .configInvalid

/-- The configuration in `path`, when one is given; otherwise the one in the usual file of a
directory, or the usual settings when there is no such file. -/
def discover (path : Option String) (directory : String) : ExceptT Error m Config := do
  match path with
  | some path => load path
  | none =>
    let usual := Path.join directory Config.fileName
    if ← (Disk.isFile usual : m Bool) then load usual else return {}

end Config

/-! ## Manifests -/

/-- The manifest in a file. -/
def Manifest.load (path : String) : ExceptT Error m Manifest := do
  let text ← readText path
  liftExcept ((Manifest.parse text).mapError Error.manifestInvalid)

/-- The models of the manifest in a file. -/
def loadBindings (resolve : Resolver) (path : String) : ExceptT Error m (List BindingModel) := do
  let manifest ← Manifest.load path
  liftExcept ((manifest.bindings resolve).mapError Error.ofBinding)

/-! ## Projects -/

/-- A snapshot with the configuration for it. -/
structure Project where
  snapshot : Snapshot
  config : Config

/-- The directory whose configuration belongs to a snapshot: the snapshot itself, when it is a
directory, or the directory around it. -/
def configDirectory (path : String) : m String := do
  if ← Disk.isDirectory path then return path
  return (Path.parent? path).getD "."

/-- The project at a path. Its manifest, which may stand among the documents, is no snapshot. -/
def Project.load (path : String) (config : Option String) : ExceptT Error m Project := do
  let config ← Config.discover config (← (configDirectory path : m String))
  let snapshot ← Snapshot.load [config.manifestFile] path
  return { snapshot, config }

end BoundaryGen
