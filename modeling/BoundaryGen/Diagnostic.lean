-- Diagnostics: what a generation has to say about models and their functions.
-- They are collected in order and never stop the generation.
import BoundaryGen.Json.Decode

namespace BoundaryGen

open Json (Decoder)

inductive Severity where
  | error
  | warning
  deriving DecidableEq, Repr

def Severity.name : Severity → String
  | .error => "error"
  | .warning => "warning"

def Severity.names : List (String × Severity) := [("error", .error), ("warning", .warning)]

structure Diagnostic where
  severity : Severity
  message : String
  /-- The qualified name of the model or function that the message is about. -/
  subject : Option String := none
  deriving DecidableEq, Repr

namespace Diagnostic

/-- A diagnostic as one line of text. -/
def line (d : Diagnostic) : String :=
  match d.subject with
  | some subject => d.severity.name ++ ": [" ++ subject ++ "] " ++ d.message
  | none => d.severity.name ++ ": " ++ d.message

def toJson (d : Diagnostic) : Json :=
  .map ([("severity", .text d.severity.name), ("message", .text d.message)]
    ++ Json.entryOf? "subject" .text d.subject)

def decoder : Decoder Diagnostic :=
  .record "Diagnostic" { severity := .error, message := "" } [
    .of "severity" .required (.variant Severity.names) fun s d => { d with severity := s },
    .of "message" .required .text fun s d => { d with message := s },
    .of "subject" .optional (.optional .text) fun s d => { d with subject := s }]

end Diagnostic

/-! ## Counting -/

/-- Diagnostics in the order of their report. -/
abbrev Diagnostics := List Diagnostic

namespace Diagnostics

def count (ds : Diagnostics) (severity : Severity) : Nat :=
  (ds.filter fun d => d.severity = severity).length

def errorCount (ds : Diagnostics) : Nat := count ds .error

def warningCount (ds : Diagnostics) : Nat := count ds .warning

def hasErrors (ds : Diagnostics) : Bool := 0 < errorCount ds

/-- The messages in their order. -/
def messages (ds : Diagnostics) : List String := ds.map (·.message)

end Diagnostics

end BoundaryGen
