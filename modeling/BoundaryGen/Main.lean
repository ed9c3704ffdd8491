-- The program: the commands on the files of the machine. Printing and the
-- operations of the disk are all that stands here.
import BoundaryGen.Commands

namespace BoundaryGen.Machine

/-! ## The disk of the machine -/

/-- Why the machine refuses an operation. -/
def refusal (e : IO.Error) : IoError :=
  match e with
  | .noFileOrDirectory .. => .notFound
  | .alreadyExists .. => .alreadyExists
  | .inappropriateType _ code _ | .otherError code _ | .resourceBusy code _ =>
    if code = 20 then .notDirectory else if code = 21 then .isDirectory else .other (toString e)
  | e => .other (toString e)

/-- An operation of the machine, with its refusal. -/
def trying {α : Type} (action : IO α) : ExceptT IoError IO α :=
  ExceptT.mk do
    try return .ok (← action)
    catch e => return .error (refusal e)

def kind? (path : String) : IO (Option EntryKind) := do
  if path.isEmpty then return none
  try
    match (← ((← IO.currentDir) / path).metadata).type with
    | .dir => return some .directory
    | .file => return some .file
    | _ => return none
  catch _ => return none

/-- Every entry below a directory, with the names that lead to it. A link is followed to a file but
not to a directory. -/
partial def entriesBelow (path : String) (trail : Trail) : IO (List (Trail × EntryKind)) := do
  let found ← try ((← IO.currentDir) / path).readDir catch _ => pure #[]
  let entries ← found.toList.mapM fun entry => do
    let here := trail ++ [entry.fileName]
    let below := Path.join path entry.fileName
    let isLink ← try pure ((← entry.path.symlinkMetadata).type == .symlink) catch _ => pure false
    match ← kind? below with
    | some .file => return [(here, .file)]
    | some .directory =>
      if isLink then return []
      return (here, .directory) :: (← entriesBelow below here)
    | none => return []
  return entries.flatten

def locate? (path : String) : IO (Option Trail) := do
  try
    let place ← IO.FS.realPath path
    return some ((Path.pieces place.toString).filter (!·.isEmpty))
  catch _ => return none

instance : Disk IO where
  kind? := kind?
  read path := do
    if (← (kind? path : IO _)) = some .directory then throw .isDirectory
    trying (IO.FS.readBinFile path)
  write path content := trying (IO.FS.writeBinFile path content)
  makeDirectory path := trying (IO.FS.createDir path)
  locate? := locate?
  below path := entriesBelow path []

end BoundaryGen.Machine

open BoundaryGen in
/-- Runs one command line. -/
def main (arguments : List String) : IO UInt32 := do
  let outcome : Outcome ← CommandLine.run arguments
  IO.print outcome.output
  if let some e := outcome.error then IO.eprintln ("Error: " ++ e.message)
  if outcome.exitCode = 2 then IO.eprintln ("\n".intercalate CommandLine.helpLines)
  return outcome.exitCode.toUInt32
