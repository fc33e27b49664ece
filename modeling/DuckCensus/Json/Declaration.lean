import DuckCensus.Declaration
import DuckCensus.Json.Cluster
import DuckCensus.Json.Duck

/-! Declared duck types as structured values. Empty texts, lists and maps are left out where they
are also read as the default. -/
namespace DuckCensus
open Json

namespace Condition

def ofJson? (j : Json) : Option Condition := do
  let fields ← j.fields?
  let type ← required fields "type" text?
  let status ← required fields "status" text?
  let reason ← defaulted fields "reason" text? ""
  let message ← defaulted fields "message" text? ""
  return { type, status, reason, message }

def toJson (c : Condition) : Json :=
  ofFields
    [ ("type", some (text c.type)), ("status", some (text c.status)),
      ("reason", unlessEmpty c.reason), ("message", unlessEmpty c.message) ]

end Condition

namespace Status

def ofJson? (j : Json) : Option Status := do
  let fields ← j.fields?
  let observedGeneration ← optional fields "observedGeneration" int64?
  let conditions ← defaulted fields "conditions" (list? Condition.ofJson?) []
  let ducks ← defaulted fields "ducks" Findings.ofJson? ∅
  let duckCount ← required fields "duckCount" count?
  return { observedGeneration, conditions, ducks, duckCount }

def toJson (s : Status) : Json :=
  ofFields
    [ ("observedGeneration", s.observedGeneration.map ofInt64),
      ("conditions", unlessNil Condition.toJson s.conditions),
      ("ducks", if s.ducks.isEmpty then none else some s.ducks.toJson),
      ("duckCount", some (ofCount s.duckCount)) ]

end Status

namespace DuckNames

def ofJson? (j : Json) : Option DuckNames := do
  let fields ← j.fields?
  let name ← required fields "name" text?
  let plural ← required fields "plural" text?
  let singular ← defaulted fields "singular" text? ""
  return { name, plural, singular }

def toJson (n : DuckNames) : Json :=
  ofFields
    [ ("name", some (text n.name)), ("plural", some (text n.plural)),
      ("singular", unlessEmpty n.singular) ]

end DuckNames

namespace DuckVersion

def ofJson? (j : Json) : Option DuckVersion := do
  let fields ← j.fields?
  let name ← required fields "name" text?
  let refs ← defaulted fields "refs" (list? Reference.ofJson?) []
  return { name, refs }

def toJson (v : DuckVersion) : Json :=
  ofFields [("name", some (text v.name)), ("refs", unlessNil Reference.toJson v.refs)]

end DuckVersion

namespace Spec

-- each selector stands in an object of its own
def selectorOfJson? (j : Json) : Option String := do
  let fields ← j.fields?
  defaulted fields "labelSelector" text? ""

def selectorToJson (selector : String) : Json := ofFields [("labelSelector", unlessEmpty selector)]

def ofJson? (j : Json) : Option Spec := do
  let fields ← j.fields?
  let group ← required fields "group" text?
  let names ← required fields "names" DuckNames.ofJson?
  let versions ← required fields "versions" (list? DuckVersion.ofJson?)
  let selectors ← defaulted fields "selectors" (list? selectorOfJson?) []
  return { group, names, versions, selectors }

def toJson (s : Spec) : Json :=
  ofFields
    [ ("group", some (text s.group)), ("names", some s.names.toJson),
      ("versions", some (ofList DuckVersion.toJson s.versions)),
      ("selectors", unlessNil selectorToJson s.selectors) ]

end Spec

namespace Declaration

def ofJson? (j : Json) : Option Declaration := do
  let fields ← j.fields?
  let metadata ← defaulted fields "metadata" Metadata.ofJson? {}
  let spec ← required fields "spec" Spec.ofJson?
  let status ← optional fields "status" Status.ofJson?
  return { metadata, spec, status }

def toJson (d : Declaration) : Json :=
  ofFields
    [ ("metadata", some d.metadata.toJson), ("spec", some d.spec.toJson),
      ("status", d.status.map Status.toJson) ]

end Declaration
end DuckCensus
