import DuckCensus.Catalog
import DuckCensus.Definition
import DuckCensus.Grants
import DuckCensus.Json

/-! Objects of the cluster as structured values. Every field may be missing or null, but an object
that says what it is must be what is read. -/
namespace DuckCensus
open Json

namespace Metadata

def ofJson? (j : Json) : Option Metadata := do
  let fields ← j.fields?
  let name ← optional fields "name" text?
  let space ← optional fields "namespace" text?
  let uid ← optional fields "uid" text?
  let generation ← optional fields "generation" int64?
  let labels ← optional fields "labels" (map? text?)
  let annotations ← optional fields "annotations" (map? text?)
  return { name, space, uid, generation, labels, annotations }

def toJson (m : Metadata) : Json :=
  ofFields
    [ ("name", m.name.map text), ("namespace", m.space.map text), ("uid", m.uid.map text),
      ("generation", m.generation.map ofInt64), ("labels", m.labels.map (ofMap text)),
      ("annotations", m.annotations.map (ofMap text)) ]

end Metadata

def DefinitionVersion.ofJson? (j : Json) : Option DefinitionVersion := do
  let fields ← j.fields?
  let name ← lenient fields "name" text? ""
  let served ← lenient fields "served" bool? false
  return { name, served }

def Definition.ofJson? (j : Json) : Option Definition := do
  let fields ← j.fields?
  stamped fields "apiVersion" "apiextensions.k8s.io/v1"
  stamped fields "kind" "CustomResourceDefinition"
  let metadata ← lenient fields "metadata" Metadata.ofJson? {}
  let spec ← lenient fields "spec" fields? []
  let names ← lenient spec "names" fields? []
  let group ← lenient spec "group" text? ""
  let scope ← lenient spec "scope" text? ""
  let kind ← lenient names "kind" text? ""
  let versions ← lenient spec "versions" (list? DefinitionVersion.ofJson?) []
  return { metadata, group, scope := .ofText scope, kind, versions }

def ServedResource.ofJson? (j : Json) : Option ServedResource := do
  let fields ← j.fields?
  let kind ← lenient fields "kind" text? ""
  let name ← lenient fields "name" text? ""
  return { kind, name }

def Listing.ofJson? (j : Json) : Option Listing := do
  let fields ← j.fields?
  stamped fields "apiVersion" "v1"
  stamped fields "kind" "APIResourceList"
  let groupVersion ← lenient fields "groupVersion" text? ""
  let resources ← lenient fields "resources" (list? ServedResource.ofJson?) []
  return { groupVersion, resources }

def PolicyRule.ofJson? (j : Json) : Option PolicyRule := do
  let fields ← j.fields?
  let verbs ← lenient fields "verbs" (list? text?) []
  let apiGroups ← lenient fields "apiGroups" (list? text?) []
  let resources ← lenient fields "resources" (list? text?) []
  return { verbs, apiGroups, resources }

def Role.ofJson? (j : Json) : Option Role := do
  let fields ← j.fields?
  stamped fields "apiVersion" "rbac.authorization.k8s.io/v1"
  stamped fields "kind" "ClusterRole"
  let rules ← lenient fields "rules" (list? PolicyRule.ofJson?) []
  return { rules }

end DuckCensus
