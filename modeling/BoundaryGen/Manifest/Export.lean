-- The manifest of resolved models. Intents that share a name are left out, as
-- they have no wrapper either.
import BoundaryGen.Manifest.Basic

namespace BoundaryGen

/-- What stands in front of the name of an intent that gives a handle. -/
def suspendMark : String := "SUSPEND_"

/-- The name of the parameter that stands for the receiver of an intent. -/
def receiverParameter : String := "model"

/-- The key of an intent. -/
def Intent.manifestKey (i : Intent) : String :=
  if i.isSuspending then suspendMark ++ i.name else i.name

namespace Snapshot

/-- Parameter names with the texts of their types. -/
def typeTexts (s : Snapshot) (parameters : List Parameter) : List (String × String) :=
  parameters.map fun p => (p.name, s.typeText p.type)

/-- The parameters of an intent. A receiver comes first, under a name of its own; a declared
parameter of that name takes its place. -/
def intentParameters (s : Snapshot) (m : Model) (i : Intent) : ParameterMap :=
  let receiver := if i.convention.onReceiver then [(receiverParameter, s.typeText m.type)] else []
  (OrderedMap.ofList receiver).insertAll (OrderedMap.ofList (s.typeTexts i.parameters)).entries

def modelData (s : Snapshot) (m : Model) : ModelData where
  values := .ofList (s.typeTexts m.fields)
  init := .ofList ((m.init.map fun i => s.typeTexts i.parameters).getD [])
  isInitSuspend := (m.init.map Init.isSuspending).getD false
  intents := .ofList (m.distinctIntents.map fun i => (i.manifestKey, s.intentParameters m i))

/-- The manifest of some models. Of two models with one qualified name, the place of the first and
the data of the last hold. -/
def manifest (s : Snapshot) (models : List Model) : Manifest where
  models := .ofList (models.map fun m => (m.qualifiedName, s.modelData m))

end Snapshot

end BoundaryGen
