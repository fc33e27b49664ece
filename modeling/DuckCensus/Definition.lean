import DuckCensus.Duck
import DuckCensus.Text.Cut

/-! Definitions of custom resources. Each of their versions may be served by the cluster or not, and
counts in every default duck version, nowhere, or in the duck versions that annotations name. -/
namespace DuckCensus
open Std Text

abbrev Labels := ExtTreeMap String String

abbrev Annotations := ExtTreeMap String String

-- a map that is present and empty is told apart from one that is missing
structure Metadata where
  name : Option String := none
  space : Option String := none
  uid : Option String := none
  generation : Option Int64 := none
  labels : Option Labels := none
  annotations : Option Annotations := none
  deriving DecidableEq

structure DefinitionVersion where
  name : String
  served : Bool
  deriving DecidableEq

structure Definition where
  metadata : Metadata
  group : String
  scope : Scope
  kind : String
  versions : List DefinitionVersion
  deriving DecidableEq

namespace Definition

def name (d : Definition) : String := d.metadata.name.getD ""

def labels (d : Definition) : Labels := d.metadata.labels.getD ∅

def annotations (d : Definition) : Annotations := d.metadata.annotations.getD ∅

def served (d : Definition) : List Duck :=
  (d.versions.filter (·.served)).map fun v => .ofGroup d.group v.name d.kind d.scope

end Definition

/-- The label that admits a definition, and the stem of the annotations that place it. An empty one
does not filter. -/
structure Filters where
  duckLabel : String := ""
  versionStem : String := ""
  deriving DecidableEq

inductive Route where
  | everywhere
  | refused
  /-- For each duck version the definition versions that count in it. -/
  | listed (versions : ExtTreeMap String (ExtTreeSet String))
  deriving DecidableEq

namespace Filters

def refuses (f : Filters) (labels : Labels) : Bool :=
  f.duckLabel ≠ "" && labels[f.duckLabel]?.any (· ≠ "true")

def duckVersion? (f : Filters) (key : String) : Option String :=
  (behind? (f.versionStem ++ "/").toList key.toList).map String.ofList

def placements (f : Filters) (annotations : Annotations) :
    ExtTreeMap String (ExtTreeSet String) :=
  if f.versionStem = "" then ∅
  else .ofList (annotations.toList.filterMap fun (key, value) =>
    -- the list of definition versions may be empty
    (f.duckVersion? key).map (·, tokens value.toList))

end Filters

-- refusal comes before placement, and a definition without placements counts everywhere
def Route.choose (filters : Option Filters) (labels : Labels) (annotations : Annotations) :
    Route :=
  match filters with
  | none => .everywhere
  | some f =>
    if f.refuses labels then .refused
    else if (f.placements annotations).isEmpty then .everywhere
    else .listed (f.placements annotations)

end DuckCensus
