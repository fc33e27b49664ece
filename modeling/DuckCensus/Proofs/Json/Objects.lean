import DuckCensus.Json.Declaration
import DuckCensus.Json.Selector
import DuckCensus.Proofs.Json.Fields

/-! Reading undoes writing, for every type of object. A layout lists all fields of a type, and
marks those that are written for the value at hand. -/
namespace DuckCensus
open Std Json

/-! ## Ducks, references and filters -/

theorem Scope.undoes : Undoes Scope.ofJson? Scope.toJson := by
  intro s
  cases s with
  | cluster => rfl
  | namespaced => rfl

theorem Scope.toJson_ne_null (s : Scope) : s.toJson ≠ null := by
  cases s with
  | cluster => exact Json.noConfusion
  | namespaced => exact Json.noConfusion

namespace Duck

def layout (d : Duck) : List (String × Bool) :=
  [("apiVersion", d.apiVersion ≠ ""), ("kind", true), ("scope", true),
    ("accessibleViaPolicy", true)]

theorem undoes : Undoes ofJson? toJson := by
  intro d
  simp [ofJson?, toJson, text?, bool?, Scope.undoes d.scope]

theorem exchanged : Exchanged ofJson? toJson (fun _ => True) layout :=
  undoes.exchanged fun d => hasFields_ofFields (by simp [layout])

end Duck

namespace Reference

def layout (r : Reference) : List (String × Bool) :=
  [("group", r.group ≠ ""), ("version", r.version ≠ ""), ("apiVersion", r.apiVersion ≠ ""),
    ("resource", r.resource ≠ ""), ("kind", r.kind ≠ ""), ("scope", r.scope.isSome)]

theorem undoes : Undoes ofJson? toJson := by
  intro r
  simp [ofJson?, toJson, Scope.undoes.map_elim Scope.toJson_ne_null]

theorem exchanged : Exchanged ofJson? toJson (fun _ => True) layout :=
  undoes.exchanged fun r => hasFields_ofFields (by simp [layout])

end Reference

namespace Filters

-- empty filters are written, too
def layout (_ : Filters) : List (String × Bool) :=
  [("duckLabel", true), ("duckVersionPrefix", true)]

theorem undoes : Undoes ofJson? toJson := by
  intro f
  simp [ofJson?, toJson, fields?, text?, List.lookup_cons]

theorem exchanged : Exchanged ofJson? toJson (fun _ => True) layout :=
  undoes.exchanged fun _ => rfl

end Filters

theorem Findings.undoes : Undoes Findings.ofJson? Findings.toJson := Duck.undoes.list.map

/-! ## Declarations -/

theorem Json.text_ne_null (s : String) : text s ≠ null := Json.noConfusion

theorem Json.ofInt64_ne_null (n : Int64) : ofInt64 n ≠ null := Json.noConfusion

namespace Metadata

-- maps that are present are written even when they are empty
def layout (m : Metadata) : List (String × Bool) :=
  [("name", m.name.isSome), ("namespace", m.space.isSome), ("uid", m.uid.isSome),
    ("generation", m.generation.isSome), ("labels", m.labels.isSome),
    ("annotations", m.annotations.isSome)]

theorem undoes : Undoes ofJson? toJson := by
  intro m
  have hmap (l : ExtTreeMap String String) : ofMap text l ≠ null := Json.noConfusion
  simp [ofJson?, toJson, undoes_text.map_elim text_ne_null, undoes_int64.map_elim ofInt64_ne_null,
    undoes_text.map.map_elim hmap]

theorem exchanged : Exchanged ofJson? toJson (fun _ => True) layout :=
  undoes.exchanged fun m => hasFields_ofFields (by simp [layout])

end Metadata

namespace Condition

def layout (c : Condition) : List (String × Bool) :=
  [("type", true), ("status", true), ("reason", c.reason ≠ ""), ("message", c.message ≠ "")]

theorem undoes : Undoes ofJson? toJson := by
  intro c
  simp [ofJson?, toJson, text?]

theorem exchanged : Exchanged ofJson? toJson (fun _ => True) layout :=
  undoes.exchanged fun c => hasFields_ofFields (by simp [layout])

end Condition

namespace DuckNames

def layout (n : DuckNames) : List (String × Bool) :=
  [("name", true), ("plural", true), ("singular", n.singular ≠ "")]

theorem undoes : Undoes ofJson? toJson := by
  intro n
  simp [ofJson?, toJson, text?]

theorem exchanged : Exchanged ofJson? toJson (fun _ => True) layout :=
  undoes.exchanged fun n => hasFields_ofFields (by simp [layout])

end DuckNames

namespace DuckVersion

def layout (v : DuckVersion) : List (String × Bool) := [("name", true), ("refs", v.refs ≠ [])]

theorem undoes : Undoes ofJson? toJson := by
  intro v
  simp [ofJson?, toJson, text?, Reference.undoes.unlessNil_elim]

theorem exchanged : Exchanged ofJson? toJson (fun _ => True) layout :=
  undoes.exchanged fun v => hasFields_ofFields (by simp [layout])

end DuckVersion

namespace Spec

def selectorLayout (selector : String) : List (String × Bool) := [("labelSelector", selector ≠ "")]

def layout (s : Spec) : List (String × Bool) :=
  [("group", true), ("names", true), ("versions", true), ("selectors", s.selectors ≠ [])]

theorem undoes_selector : Undoes selectorOfJson? selectorToJson := by
  intro selector
  simp [selectorOfJson?, selectorToJson]

theorem exchanged_selector :
    Exchanged selectorOfJson? selectorToJson (fun _ => True) selectorLayout :=
  undoes_selector.exchanged fun selector => hasFields_ofFields (by simp [selectorLayout])

theorem undoes : Undoes ofJson? toJson := by
  intro s
  simp [ofJson?, toJson, text?, DuckNames.undoes s.names, DuckVersion.undoes.list s.versions,
    undoes_selector.unlessNil_elim]

theorem exchanged : Exchanged ofJson? toJson (fun _ => True) layout :=
  undoes.exchanged fun s => hasFields_ofFields (by simp [layout])

end Spec

namespace Status

-- counts are of 64 bits
def InRange (s : Status) : Prop := s.duckCount < UInt64.size

def layout (s : Status) : List (String × Bool) :=
  [("observedGeneration", s.observedGeneration.isSome), ("conditions", s.conditions ≠ []),
    ("ducks", !s.ducks.isEmpty), ("duckCount", true)]

theorem ofJson?_toJson {s : Status} (h : s.InRange) : ofJson? s.toJson = some s := by
  -- findings that are empty are left out, and where they are missing empty ones are read
  have hducks : (if s.ducks = ∅ then none else some s.ducks.toJson).elim (some ∅)
      Findings.ofJson? = some s.ducks := by
    by_cases he : s.ducks = ∅
    · rw [if_pos he, Option.elim_none, he]
    · rw [if_neg he, Option.elim_some, Findings.undoes]
  simp [ofJson?, toJson, undoes_int64.map_elim ofInt64_ne_null, Condition.undoes.unlessNil_elim,
    hducks, count?_ofCount h]

theorem inRange_of_ofJson? {j : Json} {s : Status} (h : ofJson? j = some s) : s.InRange := by
  simp only [ofJson?, required_eq_bind, Option.bind_eq_bind, Option.bind_eq_some_iff] at h
  obtain ⟨fields, -, observed, -, conditions, -, ducks, -, count, ⟨n, -, hcount⟩, hs⟩ := h
  rw [← Option.some_inj.mp hs]
  exact lt_of_count? hcount

theorem exchanged : Exchanged ofJson? toJson InRange layout where
  read_write _ h := ofJson?_toJson h
  rereads _ _ h := ofJson?_toJson (inRange_of_ofJson? h)
  hasFields s := by
    refine hasFields_ofFields ?_
    by_cases he : s.ducks = ∅ <;> simp [layout, he]

end Status

namespace Declaration

def InRange (d : Declaration) : Prop := ∀ s, d.status = some s → s.InRange

def layout (d : Declaration) : List (String × Bool) :=
  [("metadata", true), ("spec", true), ("status", d.status.isSome)]

theorem ofJson?_toJson {d : Declaration} (h : d.InRange) : ofJson? d.toJson = some d := by
  have hnull (s : Status) : s.toJson ≠ null := Json.noConfusion
  simp [ofJson?, toJson, Metadata.undoes d.metadata, Spec.undoes d.spec,
    map_elim_nullable (fun s hs => Status.ofJson?_toJson (h s hs)) hnull]

theorem inRange_of_ofJson? {j : Json} {d : Declaration} (h : ofJson? j = some d) : d.InRange := by
  intro s hs
  simp only [ofJson?, Option.bind_eq_bind, Option.bind_eq_some_iff] at h
  obtain ⟨fields, -, metadata, -, spec, -, status, hstatus, hd⟩ := h
  obtain rfl := Option.some_inj.mp hd
  obtain rfl : status = some s := hs
  obtain ⟨i, hi⟩ := exists_read_of_optional fields "status" hstatus
  exact Status.inRange_of_ofJson? hi

theorem exchanged : Exchanged ofJson? toJson InRange layout where
  read_write _ h := ofJson?_toJson h
  rereads _ _ h := ofJson?_toJson (inRange_of_ofJson? h)
  hasFields d := hasFields_ofFields (by simp [layout])

end Declaration

/-! ## Selectors -/

theorem Json.textSet?_ofList (xs : List String) :
    textSet? (ofList text xs) = some (.ofList xs) := by
  rw [textSet?, undoes_text.list xs, Option.map_some]

theorem Json.ofList_eq_ofList_iff {xs ys : List String} :
    ExtTreeSet.ofList xs = ExtTreeSet.ofList ys ↔ ∀ s, s ∈ xs ↔ s ∈ ys := by
  constructor
  · intro h s
    have hs : s ∈ ExtTreeSet.ofList xs ↔ s ∈ ExtTreeSet.ofList ys := by rw [h]
    simpa using hs
  · intro h
    exact ExtTreeSet.ext_mem fun s => by simpa using h s

theorem Json.undoes_textSet : Undoes textSet? ofTextSet := by
  intro xs
  have hxs : ExtTreeSet.ofList xs.toList = xs := ExtTreeSet.ext_mem fun s => by simp
  rw [ofTextSet, textSet?_ofList, hxs]

namespace Requirement

def membershipJson (operator key : String) (values : List String) : Json :=
  object [(operator, array [.text key, ofList .text values])]

theorem ofJson?_isIn (key : String) (values : List String) :
    ofJson? (membershipJson "In" key values) = some (isIn key (.ofList values)) := by
  simp [membershipJson, ofJson?, pair?, text?, textSet?_ofList]

theorem ofJson?_notIn (key : String) (values : List String) :
    ofJson? (membershipJson "NotIn" key values) = some (notIn key (.ofList values)) := by
  simp [membershipJson, ofJson?, pair?, text?, textSet?_ofList]

theorem undoes : Undoes ofJson? toJson := by
  intro r
  have hset (key : String) (values : ExtTreeSet String) :
      (array [Json.text key, ofTextSet values]).pair? text? textSet? = some (key, values) := by
    simp [pair?, text?, undoes_textSet values]
  cases r with
  | isIn key values => simp [ofJson?, toJson, hset]
  | notIn key values => simp [ofJson?, toJson, hset]
  | _ => rfl

end Requirement

theorem Selector.undoes : Undoes Selector.ofJson? Selector.toJson := by
  intro s
  rw [ofJson?, toJson, Requirement.undoes.list s.requirements]
  rfl

/-! ## All types -/

/-- Written objects are read back, whatever was read is read again from what is written of it, and
empty texts, lists and maps are left out just where the layouts say so. Of the values of a
membership requirement only the set counts. -/
theorem objects_exchanged :
    Exchanged Declaration.ofJson? Declaration.toJson Declaration.InRange Declaration.layout ∧
      Exchanged Metadata.ofJson? Metadata.toJson (fun _ => True) Metadata.layout ∧
      Exchanged Spec.ofJson? Spec.toJson (fun _ => True) Spec.layout ∧
      Exchanged DuckNames.ofJson? DuckNames.toJson (fun _ => True) DuckNames.layout ∧
      Exchanged DuckVersion.ofJson? DuckVersion.toJson (fun _ => True) DuckVersion.layout ∧
      Exchanged Spec.selectorOfJson? Spec.selectorToJson (fun _ => True) Spec.selectorLayout ∧
      Exchanged Status.ofJson? Status.toJson Status.InRange Status.layout ∧
      Exchanged Condition.ofJson? Condition.toJson (fun _ => True) Condition.layout ∧
      Exchanged Duck.ofJson? Duck.toJson (fun _ => True) Duck.layout ∧
      Exchanged Reference.ofJson? Reference.toJson (fun _ => True) Reference.layout ∧
      Exchanged Filters.ofJson? Filters.toJson (fun _ => True) Filters.layout ∧
      (Undoes Requirement.ofJson? Requirement.toJson ∧
        Rereads Requirement.ofJson? Requirement.toJson) ∧
      (Undoes Selector.ofJson? Selector.toJson ∧ Rereads Selector.ofJson? Selector.toJson) ∧
      ∀ operator ∈ ["In", "NotIn"], ∀ key xs,
        ∃ r, Requirement.ofJson? (Requirement.membershipJson operator key xs) = some r ∧
          ∀ ys, Requirement.ofJson? (Requirement.membershipJson operator key ys) = some r ↔
            ∀ s, s ∈ ys ↔ s ∈ xs := by
  refine ⟨Declaration.exchanged, Metadata.exchanged, Spec.exchanged, DuckNames.exchanged,
    DuckVersion.exchanged, Spec.exchanged_selector, Status.exchanged, Condition.exchanged,
    Duck.exchanged, Reference.exchanged, Filters.exchanged,
    ⟨Requirement.undoes, Requirement.undoes.rereads⟩, ⟨Selector.undoes, Selector.undoes.rereads⟩,
    ?_⟩
  intro operator hoperator key xs
  obtain rfl | rfl : operator = "In" ∨ operator = "NotIn" := by simpa using hoperator
  · refine ⟨_, Requirement.ofJson?_isIn key xs, fun ys => ?_⟩
    rw [Requirement.ofJson?_isIn, ← ofList_eq_ofList_iff]
    simp
  · refine ⟨_, Requirement.ofJson?_notIn key xs, fun ys => ?_⟩
    rw [Requirement.ofJson?_notIn, ← ofList_eq_ofList_iff]
    simp

def fullPond : Declaration where
  metadata := { name := some "ponds.test", labels := some ∅ }
  spec := { group := "test", names := { name := "Pond", plural := "ponds" }, versions := [] }
  status := some { observedGeneration := some Int64.minValue, duckCount := UInt64.size - 1 }

theorem objects_exchanged_fullPond :
    fullPond.InRange ∧ Declaration.ofJson? fullPond.toJson = some fullPond ∧
      fullPond.metadata.toJson.HasFields [("name", true), ("labels", true)] ∧
      Requirement.ofJson? (Requirement.membershipJson "In" "env" ["b", "a", "b"]) =
        Requirement.ofJson? (Requirement.membershipJson "In" "env" ["a", "b"]) := by
  have hrange : fullPond.InRange := by
    intro s hs
    obtain rfl := Option.some_inj.mp hs
    change UInt64.size - 1 < UInt64.size
    decide
  obtain ⟨hdeclaration, hmetadata, -, -, -, -, -, -, -, -, -, -, -, hsets⟩ := objects_exchanged
  obtain ⟨r, hr, hsame⟩ := hsets "In" (by decide) "env" ["a", "b"]
  refine ⟨hrange, hdeclaration.read_write _ hrange, hmetadata.hasFields _, ?_⟩
  rw [hr, hsame]
  grind

end DuckCensus
