-- One generation over one snapshot: its models, their units, the manifest, and
-- what there is to say about them. Models do not depend on each other, and
-- everything comes in the order of the models.
import BoundaryGen.Error
import BoundaryGen.Manifest.Export
import BoundaryGen.Model.Json
import BoundaryGen.Wrapper.Synthesis

namespace BoundaryGen

/-! ## Generation -/

structure Generation where
  models : List Model
  units : List WrapperUnit
  manifest : Manifest
  diagnostics : Diagnostics

namespace Snapshot

/-- Whether a snapshot is meant for generation. -/
def wantsGeneration (s : Snapshot) (config : Config) : Bool := s.hasPackage config.wasmPackage

def generate (s : Snapshot) (config : Config) : Generation :=
  let models := s.models config
  let outcomes := models.map (s.unit config)
  { models
    units := outcomes.map (·.1)
    manifest := s.manifest models
    diagnostics := outcomes.flatMap fun outcome => outcome.2.map Finding.diagnostic }

end Snapshot

/-- The number of wrappers of all units. -/
def Generation.wrapperCount (g : Generation) : Nat :=
  (g.units.map fun u => u.wrappers.length).foldr (· + ·) 0

/-! ## Inspection -/

/-- The retriever of one function, or the error that stands for it. -/
structure RetrieverReport where
  function : String
  outcome : Except RetrieverMissing Binding

structure ModelReport where
  model : Model
  retrievers : List RetrieverReport

namespace Snapshot

/-- A report on each function of a model that uses a retriever, the init function first. -/
def report (s : Snapshot) (config : Config) (m : Model) : ModelReport where
  model := m
  retrievers :=
    (m.init.toList.filter (·.usesRetriever)).map (fun i =>
      { function := i.qualifiedName, outcome := s.bindAt config i.decl m.decl .init })
    ++ (m.intents.filter (·.usesRetriever)).map fun i =>
      { function := i.qualifiedName, outcome := s.bindAt config i.decl m.decl .intent }

/-- A report on each model. -/
def inspect (s : Snapshot) (config : Config) : List ModelReport :=
  (s.models config).map (s.report config)

end Snapshot

def RetrieverReport.toJson (r : RetrieverReport) : Json :=
  match r.outcome with
  | .ok binding => .map [("function", .text r.function), ("binding", binding.toJson)]
  | .error e => .map [("function", .text r.function), ("error", .text (Error.retriever e).message)]

def ModelReport.toJson (r : ModelReport) : Json :=
  .map [("model", r.model.toJson),
    ("retrievers", .list (r.retrievers.map RetrieverReport.toJson))]

end BoundaryGen
