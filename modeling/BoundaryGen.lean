import BoundaryGen.Files.FileTree
import BoundaryGen.Main
import BoundaryGen.Proofs.Wrapper.Execution
import BoundaryGen.Source.Build
import BoundaryGen.Wrapper.Json
import BoundaryGen.Proofs.Wrapper.Meaning
import BoundaryGen.Proofs.TypeRef.Grammar
import BoundaryGen.Proofs.Snapshot.Listing
import BoundaryGen.Proofs.Snapshot.Renumbering
import BoundaryGen.Proofs.Snapshot.Reordering
import BoundaryGen.Proofs.Model.Renumbering
import BoundaryGen.Proofs.Generation.Renumbering
import BoundaryGen.Proofs.Generation.SourceOrder
import BoundaryGen.Proofs.Json.Tokens
import BoundaryGen.Proofs.Json.RoundTrip
import BoundaryGen.Proofs.Manifest.RoundTrip
import BoundaryGen.Proofs.TypeRef.Rendering
import BoundaryGen.Proofs.Model.RepeatedNames
import BoundaryGen.Proofs.Snapshot.Qualifier
import BoundaryGen.Proofs.Manifest.Readback
import BoundaryGen.Proofs.TypeRef.Inverse
import BoundaryGen.Proofs.Wrapper.Serving
import BoundaryGen.Proofs.Generation.Accounting
import BoundaryGen.Proofs.Manifest.Wrappers
import BoundaryGen.Proofs.Manifest.Arguments
import BoundaryGen.Proofs.Manifest.Marks
import BoundaryGen.Proofs.Wrapper.Names
import BoundaryGen.Proofs.Files.Destination
import BoundaryGen.Proofs.Files.Changes
import BoundaryGen.Proofs.Wrapper.Place
import BoundaryGen.Proofs.Generation.Writing
import BoundaryGen.Proofs.Snapshot.Assignability
import BoundaryGen.Proofs.Snapshot.Search
import BoundaryGen.Proofs.TypeRef.Names
import BoundaryGen.Proofs.Snapshot.Numbering
import BoundaryGen.Proofs.Snapshot.Annotated
import BoundaryGen.Proofs.Snapshot.Insertion
import BoundaryGen.Proofs.Snapshot.TypeNames
import BoundaryGen.Proofs.Snapshot.Restriction
import BoundaryGen.Proofs.Snapshot.Unrelated
import BoundaryGen.Proofs.Model.Restriction
import BoundaryGen.Proofs.Generation.Restriction
import BoundaryGen.Proofs.Generation.Independence
import BoundaryGen.Proofs.Snapshot.WrittenNames
import BoundaryGen.Proofs.Model.Functions
import BoundaryGen.Proofs.Model.Intents
import BoundaryGen.Proofs.Model.ValueSource
import BoundaryGen.Proofs.Wrapper.CallTarget
import BoundaryGen.Proofs.Wrapper.Provider
import BoundaryGen.Proofs.Wrapper.HandedValue
import BoundaryGen.Proofs.Generation.Inspection
import BoundaryGen.Proofs.Files.Rooted
import BoundaryGen.Proofs.Generation.WritingAgain
import BoundaryGen.Proofs.Json.Spelling
import BoundaryGen.Proofs.TypeRef.Spelling
import BoundaryGen.Proofs.Source.Spelling
import BoundaryGen.Proofs.Files.Around
import BoundaryGen.Proofs.Files.Growth
import BoundaryGen.Proofs.Files.Seen
import BoundaryGen.Proofs.Generation.Feedback
import BoundaryGen.Proofs.Snapshot.Preorder
import BoundaryGen.Proofs.Wrapper.Scoping
import BoundaryGen.Proofs.Wrapper.PlainNames
import BoundaryGen.Proofs.Wrapper.Lines
import BoundaryGen.Proofs.Wrapper.Emission
import BoundaryGen.Proofs.Wrapper.SavedState
import BoundaryGen.Proofs.TypeRef.Lookahead
import BoundaryGen.Proofs.TypeRef.ErrorPosition
import BoundaryGen.Proofs.Manifest.Resolution
import BoundaryGen.Proofs.Result
import BoundaryGen.Proofs.Snapshot.Tables
