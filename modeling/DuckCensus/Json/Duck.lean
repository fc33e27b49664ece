import DuckCensus.Census.Session
import DuckCensus.Duck
import DuckCensus.Json

/-! Ducks, references and filters as structured values. Empty texts of a duck or reference are left
out. -/
namespace DuckCensus
open Json

namespace Scope

-- here, unlike in a definition, the scope must be one of the two
def ofJson? : Json → Option Scope
  | text "Cluster" => some cluster
  | text "Namespaced" => some namespaced
  | _ => none

def toJson : Scope → Json
  | cluster => text "Cluster"
  | namespaced => text "Namespaced"

end Scope

namespace Duck

def ofJson? (j : Json) : Option Duck := do
  let fields ← j.fields?
  let apiVersion ← defaulted fields "apiVersion" text? ""
  let kind ← required fields "kind" text?
  let scope ← required fields "scope" Scope.ofJson?
  let accessible ← defaulted fields "accessibleViaPolicy" bool? false
  return { apiVersion, kind, scope, accessible }

def toJson (d : Duck) : Json :=
  ofFields
    [ ("apiVersion", unlessEmpty d.apiVersion), ("kind", some (text d.kind)),
      ("scope", some d.scope.toJson), ("accessibleViaPolicy", some (bool d.accessible)) ]

end Duck

namespace Reference

def ofJson? (j : Json) : Option Reference := do
  let fields ← j.fields?
  let group ← defaulted fields "group" text? ""
  let version ← defaulted fields "version" text? ""
  let apiVersion ← defaulted fields "apiVersion" text? ""
  let resource ← defaulted fields "resource" text? ""
  let kind ← defaulted fields "kind" text? ""
  let scope ← optional fields "scope" Scope.ofJson?
  return { group, version, apiVersion, resource, kind, scope }

def toJson (r : Reference) : Json :=
  ofFields
    [ ("group", unlessEmpty r.group), ("version", unlessEmpty r.version),
      ("apiVersion", unlessEmpty r.apiVersion), ("resource", unlessEmpty r.resource),
      ("kind", unlessEmpty r.kind), ("scope", r.scope.map Scope.toJson) ]

end Reference

namespace Filters

def ofJson? (j : Json) : Option Filters := do
  let fields ← j.fields?
  let duckLabel ← defaulted fields "duckLabel" text? ""
  let versionStem ← defaulted fields "duckVersionPrefix" text? ""
  return { duckLabel, versionStem }

def toJson (f : Filters) : Json :=
  object [("duckLabel", text f.duckLabel), ("duckVersionPrefix", text f.versionStem)]

end Filters

namespace Findings

def ofJson? (j : Json) : Option Findings := j.map? (list? Duck.ofJson?)

def toJson (f : Findings) : Json := ofMap (ofList Duck.toJson) f

end Findings
end DuckCensus
