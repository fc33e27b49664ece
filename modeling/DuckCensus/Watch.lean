import DuckCensus.Survey

/-! Keeping the status of a declared duck type up to date while the cluster around it changes. -/
namespace DuckCensus

/-- The surveys use the held catalog as long as there is one, and else the live one. -/
structure Watch where
  declaration : Declaration
  definitions : List Definition := []
  role : Option Role := none
  live : Catalog := {}
  held : Option Catalog := none

namespace Watch

inductive Step where
  | rebuild (listings : List Listing)
  | hold
  | release
  | setDefinitions (ds : List Definition)
  | addDefinition (d : Definition)
  | removeDefinition (name : String)
  | setRole (role : Option Role)
  | setSpec (spec : Spec)
  | observe

def catalog (w : Watch) : Catalog := w.held.getD w.live

def currentStatus (w : Watch) : Status :=
  w.declaration.observe w.definitions (some w.catalog) w.role

def respecify (d : Declaration) (spec : Spec) : Declaration :=
  { d with
    spec
    metadata := { d.metadata with generation := some (d.metadata.generation.getD 0 + 1) } }

def step (w : Watch) : Step → Watch
  | .rebuild listings => { w with live := .ofListings listings }
  | .hold => { w with held := some w.live }
  | .release => { w with held := none }
  | .setDefinitions ds => { w with definitions := ds }
  | .addDefinition d => { w with definitions := w.definitions ++ [d] }
  | .removeDefinition name =>
    { w with definitions := w.definitions.filter (·.metadata.name ≠ some name) }
  | .setRole role => { w with role }
  | .setSpec spec => { w with declaration := respecify w.declaration spec }
  | .observe => { w with declaration := { w.declaration with status := some w.currentStatus } }

def run (w : Watch) (steps : List Step) : Watch := steps.foldl step w

end Watch
end DuckCensus
