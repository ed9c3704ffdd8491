-- Errors that end a command, each with its cause. The text of an error starts
-- with the part of the program that it comes from.
import BoundaryGen.Config
import BoundaryGen.Files.Disk
import BoundaryGen.Manifest.Binding
import BoundaryGen.Model.Retriever
import BoundaryGen.Source.Json

namespace BoundaryGen

inductive Error where
  | io (error : IoError)
  | json (problem : Json.Problem)
  /-- A configuration file that cannot be read. -/
  | configUnreadable (path : String) (error : IoError)
  /-- A configuration that is no TOML, or has a value of a wrong kind. -/
  | configInvalid
  | unnamed (error : Unnamed)
  | snapshotInvalid (path : String) (problem : Json.Problem)
  | snapshotMissing (path : String)
  | type (error : TypeRef.ParseError)
  | retriever (error : RetrieverMissing)
  | manifestInvalid (problem : Json.Problem)
  | typeUnresolved (name : String)
  deriving DecidableEq, Repr

/-- The part of the program that an error comes from. -/
inductive ErrorKind where
  | io
  | json
  | config
  | snapshot
  | typeParse
  | resolution
  | manifest
  deriving DecidableEq, Repr

/-- What a part of the program is called in error texts. -/
def ErrorKind.label : ErrorKind → String
  | .io => "IO error"
  | .json => "JSON error"
  | .config => "Config error"
  | .snapshot => "Snapshot error"
  | .typeParse => "Type parse error"
  | .resolution => "Resolution error"
  | .manifest => "Manifest error"

namespace Error

def kind : Error → ErrorKind
  | .io _ => .io
  | .json _ => .json
  | .configUnreadable .. | .configInvalid => .config
  | .unnamed _ | .snapshotInvalid .. | .snapshotMissing _ => .snapshot
  | .type _ => .typeParse
  | .retriever _ => .resolution
  | .manifestInvalid _ | .typeUnresolved _ => .manifest

/-- What an error says, without the part of the program. -/
def detail : Error → String
  | .io e => e.message
  | .json p => p.message
  | .configUnreadable path e => "Failed to read " ++ path ++ ": " ++ e.message
  | .configInvalid => "Invalid " ++ Config.fileName
  | .unnamed e => e.message
  | .snapshotInvalid path p => "Invalid snapshot " ++ path ++ ": " ++ p.message
  | .snapshotMissing path => "Snapshot not found: " ++ path
  | .type e => e.message
  | .retriever e => e.message
  | .manifestInvalid p => "Invalid manifest: " ++ p.message
  | .typeUnresolved name => "Failed to resolve type " ++ name

/-- The text of an error. -/
def message (e : Error) : String := e.kind.label ++ ": " ++ e.detail

def ofBinding : BindingError → Error
  | .type e => .type e
  | .unresolved name => .typeUnresolved name

end Error

/-- The snapshot that a document of source files makes. -/
def Snapshot.ofDocument (doc : Json.Document) : Except Error Snapshot := do
  let files ← (Json.Decoder.document SourceFile.documentDecoder doc).mapError Error.json
  (Snapshot.ofFiles files).mapError Error.unnamed

end BoundaryGen
