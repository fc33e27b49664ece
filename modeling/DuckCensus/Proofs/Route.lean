import DuckCensus.Census.Session
import DuckCensus.Proofs.Text.Cut
import DuckCensus.Proofs.Text.Tokens
import Mathlib.Data.List.Pairwise

/-! What a route is in terms of the labels and annotations it was chosen from. -/
namespace DuckCensus
open Std Text

namespace Filters

def Placed (f : Filters) (annotations : Annotations) : Prop :=
  ∃ key ∈ annotations, (f.versionStem ++ "/").toList <+: key.toList

def Admits (f : Filters) (labels : Labels) : Prop :=
  ∀ value, labels[f.duckLabel]? = some value → value = "true"

def Rejects (f : Filters) (labels : Labels) : Prop :=
  f.duckLabel ≠ "" ∧ ∃ value, labels[f.duckLabel]? = some value ∧ value ≠ "true"

/-- Behind the stem of every placing annotation stands a duck version, and for it the trimmed parts
of the value between its commas are listed, the empty ones left out. -/
def Lists (f : Filters) (annotations : Annotations)
    (versions : ExtTreeMap String (ExtTreeSet String)) : Prop :=
  ∀ v : String, (v ∈ versions ↔ f.versionStem ++ "/" ++ v ∈ annotations) ∧
    ∀ listed, versions[v]? = some listed →
      ∃ value, annotations[f.versionStem ++ "/" ++ v]? = some value ∧
        ∀ token, token ∈ listed ↔
          token.toList ≠ [] ∧ ∃ part ∈ value.toList.splitOn ',', trim part = token.toList

theorem duckVersion?_eq_some_iff {f : Filters} {key v : String} :
    f.duckVersion? key = some v ↔ key = f.versionStem ++ "/" ++ v := by
  have happ : (f.versionStem ++ "/" ++ v).toList = (f.versionStem ++ "/").toList ++ v.toList :=
    String.toList_append
  rw [duckVersion?, Option.map_eq_some_iff, ← String.toList_inj, happ]
  constructor
  · intro h
    obtain ⟨rest, hr, rfl⟩ := h
    rw [behind?_eq_some_iff.mp hr, String.toList_ofList]
  · intro h
    exact ⟨v.toList, behind?_eq_some_iff.mpr h, String.ofList_toList⟩

/-- Different annotations name different duck versions. -/
theorem distinct_placements (f : Filters) (annotations : Annotations) :
    (annotations.toList.filterMap fun (key, value) =>
      (f.duckVersion? key).map (·, tokens value.toList)).Pairwise
        fun a b => ¬ compare a.1 b.1 = .eq := by
  refine annotations.distinct_keys_toList.filterMap _ ?_
  intro a b hab x hx y hy hxy
  obtain ⟨w, hw, rfl⟩ := Option.map_eq_some_iff.mp hx
  obtain ⟨w', hw', rfl⟩ := Option.map_eq_some_iff.mp hy
  have he : w = w' := LawfulEqCmp.compare_eq_iff_eq.mp hxy
  subst he
  rw [duckVersion?_eq_some_iff.mp hw, duckVersion?_eq_some_iff.mp hw'] at hab
  exact hab (LawfulEqCmp.compare_eq_iff_eq.mpr rfl)

theorem isSome_duckVersion?_iff {f : Filters} {key : String} :
    (f.duckVersion? key).isSome ↔ (f.versionStem ++ "/").toList <+: key.toList := by
  rw [duckVersion?, Option.isSome_map, ← not_iff_not, Option.not_isSome_iff_eq_none,
    behind?_eq_none_iff]

theorem getElem?_placements {f : Filters} (hf : f.versionStem ≠ "") (annotations : Annotations)
    (v : String) : (f.placements annotations)[v]? =
      annotations[f.versionStem ++ "/" ++ v]?.map fun value => tokens value.toList := by
  rw [placements, if_neg hf]
  cases h : annotations[f.versionStem ++ "/" ++ v]? with
  | none =>
    apply ExtTreeMap.getElem?_ofList_of_contains_eq_false
    simp only [List.contains_eq_mem, List.mem_map, List.mem_filterMap, Prod.exists,
      decide_eq_false_iff_not]
    intro hm
    obtain ⟨w, ts, ⟨key, value, ha, hp⟩, rfl⟩ := hm
    obtain ⟨w', hw, he⟩ := Option.map_eq_some_iff.mp hp
    cases he
    rw [duckVersion?_eq_some_iff.mp hw, ExtTreeMap.mem_toList_iff_getElem?_eq_some, h] at ha
    exact Option.some_ne_none _ ha.symm
  | some value =>
    refine ExtTreeMap.getElem?_ofList_of_mem (LawfulEqCmp.compare_eq_iff_eq.mpr rfl)
      (f.distinct_placements annotations) ?_
    refine List.mem_filterMap.mpr ⟨(f.versionStem ++ "/" ++ v, value), ?_, ?_⟩
    · exact ExtTreeMap.mem_toList_iff_getElem?_eq_some.mpr h
    · simp only [duckVersion?_eq_some_iff.mpr rfl, Option.map_some]

theorem placed_iff {f : Filters} {annotations : Annotations} :
    f.Placed annotations ↔ ∃ v, f.versionStem ++ "/" ++ v ∈ annotations := by
  constructor
  · intro h
    obtain ⟨key, hk, rest, hr⟩ := h
    have he : f.versionStem ++ "/" ++ String.ofList rest = key := by
      rw [← String.toList_inj, String.toList_append, String.toList_ofList, hr]
    exact ⟨String.ofList rest, he ▸ hk⟩
  · intro h
    obtain ⟨v, hv⟩ := h
    exact ⟨_, hv, v.toList, by simp⟩

theorem placements_isEmpty_iff {f : Filters} (hf : f.versionStem ≠ "") (annotations : Annotations) :
    (f.placements annotations).isEmpty ↔ ¬ f.Placed annotations := by
  rw [placed_iff, not_exists, ExtTreeMap.isEmpty_iff,
    ExtTreeMap.eq_empty_iff_forall_not_mem]
  refine forall_congr' fun v => not_congr ?_
  simp only [ExtTreeMap.mem_iff_isSome_getElem?, getElem?_placements hf, Option.isSome_map]

/-- Nothing is placed without a stem. -/
theorem isEmpty_placements_iff {f : Filters} {annotations : Annotations} :
    (f.placements annotations).isEmpty ↔ f.versionStem = "" ∨ ¬ f.Placed annotations := by
  by_cases hf : f.versionStem = ""
  · rw [placements, if_pos hf]
    simp [hf]
  · rw [placements_isEmpty_iff hf]
    simp [hf]

theorem refuses_iff {f : Filters} (hf : f.duckLabel ≠ "") (labels : Labels) :
    f.refuses labels ↔ ¬ f.Admits labels := by
  simp only [refuses, Admits]
  cases labels[f.duckLabel]? <;> simp [hf]

theorem refuses_iff_rejects {f : Filters} {labels : Labels} :
    f.refuses labels ↔ f.Rejects labels := by
  simp [refuses, Rejects, Option.any_eq_true]

theorem lists_placements {f : Filters} (hf : f.versionStem ≠ "") (annotations : Annotations) :
    f.Lists annotations (f.placements annotations) := by
  intro v
  rw [ExtTreeMap.mem_iff_isSome_getElem?, getElem?_placements hf, Option.isSome_map,
    ← ExtTreeMap.mem_iff_isSome_getElem?]
  refine ⟨Iff.rfl, ?_⟩
  intro listed hl
  obtain ⟨value, hvalue, rfl⟩ := Option.map_eq_some_iff.mp hl
  refine ⟨value, hvalue, ?_⟩
  simp only [mem_tokens_iff, mem_items_iff, implies_true]

/-- One duck version for each annotation with the stem. -/
theorem size_placements {f : Filters} (hf : f.versionStem ≠ "") (annotations : Annotations) :
    (f.placements annotations).size =
      annotations.keys.countP fun key => (f.versionStem ++ "/").toList <+: key.toList := by
  rw [placements, if_neg hf, ExtTreeMap.size_ofList (f.distinct_placements annotations),
    List.length_filterMap_eq_countP, ← ExtTreeMap.map_fst_toList_eq_keys, List.countP_map]
  refine List.countP_congr fun p _ => ?_
  rw [Option.isSome_map, isSome_duckVersion?_iff, Function.comp_apply, decide_eq_true_iff]

end Filters

namespace Route
variable {f : Filters} {labels : Labels} {annotations : Annotations}

theorem choose_some (f : Filters) (labels : Labels) (annotations : Annotations) :
    choose (some f) labels annotations =
      if f.refuses labels then .refused
      else if (f.placements annotations).isEmpty then .everywhere
      else .listed (f.placements annotations) := rfl

theorem choose_eq_refused_iff :
    choose (some f) labels annotations = .refused ↔ f.Rejects labels := by
  rw [choose_some, ← Filters.refuses_iff_rejects]
  split_ifs with hr he <;> simp [hr]

theorem choose_eq_everywhere_iff :
    choose (some f) labels annotations = .everywhere ↔
      ¬ f.Rejects labels ∧ (f.versionStem = "" ∨ ¬ f.Placed annotations) := by
  rw [choose_some, ← Filters.refuses_iff_rejects, ← Filters.isEmpty_placements_iff]
  by_cases hr : f.refuses labels
  · simp [hr]
  · rw [if_neg hr]
    split_ifs with he <;> simp [hr, he]

theorem choose_eq_listed_iff {versions : ExtTreeMap String (ExtTreeSet String)} :
    choose (some f) labels annotations = .listed versions ↔
      (¬ f.Rejects labels ∧ f.versionStem ≠ "" ∧ f.Placed annotations) ∧
        f.placements annotations = versions := by
  have hempty : ¬ (f.placements annotations).isEmpty ↔
      f.versionStem ≠ "" ∧ f.Placed annotations := by
    rw [Filters.isEmpty_placements_iff, not_or, not_not]
  rw [choose_some, ← Filters.refuses_iff_rejects, ← hempty]
  by_cases hr : f.refuses labels
  · simp [hr]
  · rw [if_neg hr]
    split_ifs with he <;> simp [hr, he]

theorem exists_lists_of_choose {filters : Option Filters}
    {versions : ExtTreeMap String (ExtTreeSet String)}
    (h : choose filters labels annotations = .listed versions) :
    ∃ f, filters = some f ∧ f.Lists annotations versions := by
  cases filters with
  | none => cases h
  | some f =>
    obtain ⟨⟨-, hf, -⟩, rfl⟩ := choose_eq_listed_iff.mp h
    exact ⟨f, rfl, Filters.lists_placements hf annotations⟩

/-- Nothing is read but the duck label and the annotations with the stem. -/
theorem choose_congr {labels' : Labels} {annotations' : Annotations}
    (hl : labels'[f.duckLabel]? = labels[f.duckLabel]?)
    (ha : ∀ key : String, (f.versionStem ++ "/").toList <+: key.toList →
      annotations'[key]? = annotations[key]?) :
    choose (some f) labels' annotations' = choose (some f) labels annotations := by
  have hplacements : f.placements annotations' = f.placements annotations := by
    by_cases hf : f.versionStem = ""
    · rw [Filters.placements, Filters.placements, if_pos hf, if_pos hf]
    · refine ExtTreeMap.ext_getElem? fun v => ?_
      rw [Filters.getElem?_placements hf, Filters.getElem?_placements hf, ha _ ⟨v.toList, by simp⟩]
  rw [choose_some, choose_some, Filters.refuses, Filters.refuses, hl, hplacements]

/-- Without filters a definition counts everywhere. With them it is refused if it has the duck label
and the label is not true, else listed if it has annotations with the stem, and else it counts
everywhere. One duck version is listed for each annotation with the stem, whatever its value says,
and nothing else about the definition matters. -/
theorem choose_by_label_and_stem (labels : Labels) (annotations : Annotations) :
    choose none labels annotations = .everywhere ∧
    ∀ f : Filters,
      (choose (some f) labels annotations = .refused ↔ f.Rejects labels) ∧
      ((∃ versions, choose (some f) labels annotations = .listed versions) ↔
        ¬ f.Rejects labels ∧ f.versionStem ≠ "" ∧ f.Placed annotations) ∧
      (choose (some f) labels annotations = .everywhere ↔
        ¬ f.Rejects labels ∧ (f.versionStem = "" ∨ ¬ f.Placed annotations)) ∧
      (∀ versions, choose (some f) labels annotations = .listed versions →
        f.Lists annotations versions ∧ versions.size =
          annotations.keys.countP fun key => (f.versionStem ++ "/").toList <+: key.toList) ∧
      ∀ labels' annotations', labels'[f.duckLabel]? = labels[f.duckLabel]? →
        (∀ key : String, (f.versionStem ++ "/").toList <+: key.toList →
          annotations'[key]? = annotations[key]?) →
        choose (some f) labels' annotations' = choose (some f) labels annotations := by
  refine ⟨rfl, fun f => ⟨choose_eq_refused_iff, ?_, choose_eq_everywhere_iff, ?_, ?_⟩⟩
  · simp only [choose_eq_listed_iff, exists_and_left, exists_eq', and_true]
  · intro versions h
    obtain ⟨⟨-, hf, -⟩, rfl⟩ := choose_eq_listed_iff.mp h
    exact ⟨Filters.lists_placements hf annotations, Filters.size_placements hf annotations⟩
  · intro labels' annotations' hl ha
    exact choose_congr hl ha

/-- A label that is not true outweighs all annotations. -/
example : choose (some ⟨"pond.org/goose", "geese.pond.org"⟩) (.ofList [("pond.org/goose", "yes")])
    (.ofList [("geese.pond.org/v1", "v1")]) = .refused := by
  decide +kernel

def gooseFilters : Filters := ⟨"pond.org/goose", "geese.pond.org"⟩

-- three of the five annotations place, one of them in a duck version without a name and one in a
-- duck version with a slash in its name
def gooseAnnotations : Annotations :=
  .ofList [("geese.pond.org/", " , "), ("geese.pond.org/v1", "v2, v1 ,v2"),
    ("geese.pond.org/v1/old", "v1"), ("geese.pond.orgs/v1", "v1"), ("geese.pond.org", "v1")]

theorem choose_by_label_and_stem_goose : ∃ versions,
    choose (some gooseFilters) (.ofList [("pond.org/goose", "true")]) gooseAnnotations =
      .listed versions ∧
    versions.size = 3 ∧ "" ∈ versions ∧ "v1/old" ∈ versions ∧
    (∀ listed, versions["v1"]? = some listed → "v1" ∈ listed ∧ "v3" ∉ listed) ∧
    choose (some gooseFilters) (.ofList [("pond.org/goose", "true"), ("wild", "no")])
      (gooseAnnotations.erase "geese.pond.orgs/v1") = .listed versions := by
  have hlabel : (Std.ExtTreeMap.ofList [("pond.org/goose", "true")] : Labels)["pond.org/goose"]? =
      some "true" := by decide +kernel
  obtain ⟨-, hchoose⟩ :=
    choose_by_label_and_stem (.ofList [("pond.org/goose", "true")]) gooseAnnotations
  obtain ⟨-, hlisted, -, hlists, hcongr⟩ := hchoose gooseFilters
  obtain ⟨versions, h⟩ := hlisted.mpr <| by
    refine ⟨?_, by decide, Filters.placed_iff.mpr ⟨"v1", by decide +kernel⟩⟩
    rintro ⟨-, value, hv, hne⟩
    exact hne (Option.some_inj.mp (hv.symm.trans hlabel))
  obtain ⟨hv, hsize⟩ := hlists versions h
  refine ⟨versions, h, ?_, ?_, ?_, ?_, ?_⟩
  · rw [hsize]
    decide +kernel
  · exact (hv "").1.mpr (by decide +kernel)
  · exact (hv "v1/old").1.mpr (by decide +kernel)
  · intro listed hl
    obtain ⟨value, hvalue, htoken⟩ := (hv "v1").2 listed hl
    have hlist : gooseAnnotations["geese.pond.org/v1"]? = some "v2, v1 ,v2" := by decide +kernel
    obtain rfl : value = "v2, v1 ,v2" := Option.some_inj.mp (hvalue.symm.trans hlist)
    rw [htoken, htoken]
    decide +kernel
  · rw [hcongr _ _ (by decide +kernel), h]
    intro key hkey
    rw [ExtTreeMap.getElem?_erase, if_neg]
    intro he
    rw [← LawfulEqCmp.compare_eq_iff_eq.mp he] at hkey
    exact absurd hkey (by decide)

end Route
end DuckCensus
