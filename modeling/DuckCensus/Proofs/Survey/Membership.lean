import DuckCensus.Proofs.Census.Resolution
import DuckCensus.Proofs.GroupVersion
import DuckCensus.Proofs.Route
import DuckCensus.Proofs.Survey.Picking
import DuckCensus.Proofs.Text.Tokens

/-! Which ducks a survey that succeeds finds: what its references point to, and the served versions
of the picked definitions where label and annotations place them. -/
namespace DuckCensus
open Std Text

namespace Definition

def Serves (d : Definition) (i : Identity) : Prop :=
  i.kind = d.kind ∧ ∃ n ∈ d.versions, n.served ∧
    i.apiVersion = if d.group = "" then n.name else d.group ++ "/" ++ n.name

theorem exists_mem_served_iff {d : Definition} {i : Identity} :
    (∃ duck ∈ d.served, duck.toIdentity = i) ↔ d.Serves i := by
  constructor
  · intro h
    obtain ⟨duck, hd, rfl⟩ := h
    obtain ⟨n, hn, rfl⟩ := List.mem_map.mp hd
    obtain ⟨hn, hs⟩ := List.mem_filter.mp hn
    exact ⟨rfl, n, hn, hs, rfl⟩
  · intro h
    obtain ⟨hk, n, hn, hs, ha⟩ := h
    refine ⟨_, List.mem_map.mpr ⟨n, List.mem_filter.mpr ⟨hn, hs⟩, rfl⟩, ?_⟩
    cases i
    simp_all [Duck.ofGroup, GroupVersion.text]

end Definition

/-- The text is what stands behind the last slash of the API version or, without a slash, all of
it. -/
def Identity.EndsIn (i : Identity) (version : String) : Prop :=
  '/' ∉ version.toList ∧
    (i.apiVersion = version ∨ ∃ group : String, i.apiVersion = group ++ "/" ++ version)

theorem Identity.endsIn_iff {i : Identity} {version : String} :
    i.EndsIn version ↔ i.version = version := by
  rw [Identity.version, groupVersion]
  constructor
  · intro h
    obtain ⟨hv, ha | ⟨group, ha⟩⟩ := h
    · rw [ha, GroupVersion.read_of_no_slash hv]
    · rw [ha, GroupVersion.read_slash group hv]
  · rintro rfl
    refine ⟨GroupVersion.slash_not_mem_version i.apiVersion, ?_⟩
    by_cases hs : '/' ∈ i.apiVersion.toList
    · obtain ⟨group, version, hv, ha⟩ := GroupVersion.exists_last_slash hs
      refine Or.inr ⟨group, ?_⟩
      rw [ha, GroupVersion.read_slash group hv]
    · exact Or.inl (by rw [GroupVersion.read_of_no_slash hs])

namespace Spec

/-- What the label of the duck type says of a definition. It is named after the group and the
singular or, where that is not given, the name in lower case. -/
def LabelSays (s : Spec) (d : Definition) (value : String) : Prop :=
  (d.metadata.labels.getD ∅)[s.group ++ "/" ++
    if s.names.singular = "" then String.ofList (lower s.names.name.toList)
    else s.names.singular]? = some value

def AnnotationSays (s : Spec) (d : Definition) (duckVersion value : String) : Prop :=
  (d.metadata.annotations.getD ∅)[s.names.plural ++ "." ++ s.group ++ "/" ++ duckVersion]? =
    some value

/-- The duck versions in which a version of a definition counts. They are all that the specification
has or, if there are annotations for duck versions, those whose annotation lists the version. -/
def Places (s : Spec) (d : Definition) (duckVersion version : String) : Prop :=
  (∀ value, s.LabelSays d value → value = "true") ∧
  ((¬ ∃ v value, s.AnnotationSays d v value) → ∃ v ∈ s.versions, v.name = duckVersion) ∧
  ((∃ v value, s.AnnotationSays d v value) → ∃ value, s.AnnotationSays d duckVersion value ∧
    version ≠ "" ∧ ∃ part ∈ value.toList.splitOn ',', trim part = version.toList)

theorem duckLabel_ne_empty (s : Spec) : s.duckLabel ≠ "" := by
  intro h
  have hl := congrArg String.length h
  simp [duckLabel] at hl

theorem versionStem_ne_empty (s : Spec) : s.versionStem ≠ "" := by
  intro h
  have hl := congrArg String.length h
  simp [versionStem] at hl

theorem getElem?_placements (s : Spec) (annotations : Annotations) (v : String) :
    (s.filters.placements annotations)[v]? =
      annotations[s.versionStem ++ "/" ++ v]?.map fun value => tokens value.toList :=
  Filters.getElem?_placements s.versionStem_ne_empty annotations v

theorem admits_iff {s : Spec} {d : Definition} :
    s.filters.Admits d.labels ↔ ∀ value, s.LabelSays d value → value = "true" := Iff.rfl

theorem placed_iff {s : Spec} {d : Definition} :
    s.filters.Placed d.annotations ↔ ∃ v value, s.AnnotationSays d v value := by
  rw [Filters.placed_iff]
  simp only [ExtTreeMap.mem_iff_isSome_getElem?, Option.isSome_iff_exists]
  rfl

theorem mem_placements_iff {s : Spec} {d : Definition} {v version : String} :
    (∃ listed, (s.filters.placements d.annotations)[v]? = some listed ∧ version ∈ listed) ↔
      ∃ value, s.AnnotationSays d v value ∧
        version ≠ "" ∧ ∃ part ∈ value.toList.splitOn ',', trim part = version.toList := by
  simp only [getElem?_placements, Option.map_eq_some_iff, ← toList_mem_items_iff,
    ← mem_tokens_iff]
  constructor
  · intro h
    obtain ⟨_, ⟨value, hv, rfl⟩, ht⟩ := h
    exact ⟨value, hv, ht⟩
  · intro h
    obtain ⟨value, hv, ht⟩ := h
    exact ⟨_, ⟨value, hv, rfl⟩, ht⟩

theorem counts_iff {s : Spec} {catalog : Option Catalog} {role : Option Role} {d : Definition}
    {v : String} {duck : Duck} :
    (s.settings catalog role).Counts d v duck ↔ duck ∈ d.served ∧ s.Places d v duck.version := by
  refine and_congr_right fun _ => ?_
  have hchoose : Route.choose (s.settings catalog role).filters d.labels d.annotations =
      if s.filters.refuses d.labels then .refused
      else if (s.filters.placements d.annotations).isEmpty then .everywhere
      else .listed (s.filters.placements d.annotations) := rfl
  have hrefuses := s.filters.refuses_iff s.duckLabel_ne_empty d.labels
  have hempty := s.filters.placements_isEmpty_iff s.versionStem_ne_empty d.annotations
  rw [hchoose, Places, ← admits_iff, ← placed_iff, ← mem_placements_iff]
  by_cases hl : s.filters.Admits d.labels
  · rw [if_neg (fun h => hrefuses.mp h hl)]
    by_cases hp : s.filters.Placed d.annotations
    · rw [if_neg (fun h => hempty.mp h hp)]
      simp [hl, hp]
    · rw [if_pos (hempty.mpr hp)]
      simp [hl, hp, settings]
  · rw [if_pos (hrefuses.mpr hl)]
    simp [hl]

theorem mem_references_iff {s : Spec} {v : String} {r : Reference} :
    (v, r) ∈ s.references ↔ ∃ version ∈ s.versions, version.name = v ∧ r ∈ version.refs := by
  simp only [references, List.mem_flatMap, List.mem_map, Prod.mk.injEq]
  constructor
  · intro h
    obtain ⟨version, hv, r', hr, rfl, rfl⟩ := h
    exact ⟨version, hv, rfl, hr⟩
  · intro h
    obtain ⟨version, hv, rfl, hr⟩ := h
    exact ⟨version, hv, r, hr, rfl, rfl⟩

/-- A survey succeeds if its selectors can be read and its references resolve, and then it is a run
over the picked definitions and after them the references. -/
theorem survey_eq_ok_iff {s : Spec} {ds : List Definition} {catalog : Option Catalog}
    {role : Option Role} {findings : Findings} :
    s.survey ds catalog role = .ok findings ↔ ∃ picked, s.pick ds = .ok picked ∧
      (∀ p ∈ s.references, ∃ duck, (s.settings catalog role).resolve p.2 = .ok duck) ∧
      findings = ((Census.start (s.settings catalog role)).takeAll
        (picked.map .definition ++ s.references.map fun p => .reference p.1 p.2)).findings := by
  rw [survey, bind_eq_ok_iff]
  refine exists_congr fun picked => and_congr_right fun _ => ?_
  rw [bind_eq_ok_iff, Census.addDefinitions_eq_takeAll]
  constructor
  · intro h
    obtain ⟨c, hc, h⟩ := h
    obtain ⟨hr, rfl⟩ := Census.foldlM_addReference_eq_ok_iff.mp hc
    rw [Census.takeAll_settings] at hr
    rw [← Census.takeAll_append] at h
    cases h
    exact ⟨hr, rfl⟩
  · intro h
    obtain ⟨hr, rfl⟩ := h
    refine ⟨_, Census.foldlM_addReference_eq_ok_iff.mpr ⟨?_, rfl⟩, ?_⟩
    · rw [Census.takeAll_settings]
      exact hr
    · rw [← Census.takeAll_append]
      rfl

/-- A survey that succeeds lists an identity in a duck version if and only if a reference of the
version points to it, or a picked definition serves it and places its version there. -/
theorem survey_lists_iff {s : Spec} {ds : List Definition} {catalog : Option Catalog}
    {role : Option Role} {findings : Findings} (h : s.survey ds catalog role = .ok findings)
    (v : String) (i : Identity) :
    (∃ duck, findings.Lists v duck ∧ duck.toIdentity = i) ↔
      (∃ version ∈ s.versions, version.name = v ∧
        ∃ r ∈ version.refs, r.PointsTo catalog i) ∨
      ∃ d, s.Picks ds d ∧ d.Serves i ∧
        ∃ version, i.EndsIn version ∧ s.Places d v version := by
  obtain ⟨picked, hp, hr, rfl⟩ := survey_eq_ok_iff.mp h
  rw [Census.exists_findings_lists_iff]
  constructor
  · intro h
    obtain ⟨src, hs, duck, hc, rfl⟩ := h
    cases List.mem_append.mp hs with
    | inl hs =>
      obtain ⟨d, hd, rfl⟩ := List.mem_map.mp hs
      obtain ⟨hm, hpl⟩ := counts_iff.mp hc
      have hs := Definition.exists_mem_served_iff.mp ⟨duck, hm, rfl⟩
      exact Or.inr ⟨d, (mem_pick_iff hp d).mp hd, hs, _, Identity.endsIn_iff.mpr rfl, hpl⟩
    | inr hs =>
      obtain ⟨⟨w, r⟩, hm, rfl⟩ := List.mem_map.mp hs
      obtain ⟨rfl, hc⟩ := hc
      obtain ⟨version, hv, hn, hm⟩ := mem_references_iff.mp hm
      exact Or.inl ⟨version, hv, hn, r, hm, Settings.pointsTo_of_resolve hc⟩
  · intro h
    cases h with
    | inl h =>
      obtain ⟨version, hv, hn, r, hm, hpt⟩ := h
      have hvr := mem_references_iff.mpr ⟨version, hv, hn, hm⟩
      obtain ⟨duck, hduck⟩ := hr _ hvr
      refine ⟨.reference v r, ?_, duck, ⟨rfl, hduck⟩, ?_⟩
      · exact List.mem_append_right _ (List.mem_map.mpr ⟨_, hvr, rfl⟩)
      · exact (Settings.pointsTo_of_resolve hduck).unique hpt
    | inr h =>
      obtain ⟨d, hd, hs, version, hv, hpl⟩ := h
      obtain rfl := Identity.endsIn_iff.mp hv
      obtain ⟨duck, hm, rfl⟩ := Definition.exists_mem_served_iff.mpr hs
      refine ⟨.definition d, ?_, duck, counts_iff.mpr ⟨hm, hpl⟩, rfl⟩
      exact List.mem_append_left _ (List.mem_map.mpr ⟨d, (mem_pick_iff hp d).mpr hd, rfl⟩)

def gooseSpec : Spec where
  group := "pond.org"
  names := ⟨"Goose", "geese", ""⟩
  versions := [⟨"v1", [{ apiVersion := "v1", kind := "Swan" }]⟩, ⟨"v2", []⟩]
  selectors := ["bird=yes"]

def geese : Definition where
  metadata :=
    { name := "geese", labels := some (.ofList [("bird", "yes"), ("pond.org/goose", "true")]),
      annotations := some (.ofList [("geese.pond.org/v3", "v0 , v1")]) }
  group := "pond.org"
  scope := .namespaced
  kind := "Goose"
  versions := [⟨"v1", true⟩]

def muteSwans : Definition where
  metadata :=
    { name := "swans", labels := some (.ofList [("bird", "yes"), ("pond.org/goose", "no")]) }
  group := "pond.org"
  scope := .namespaced
  kind := "Swan"
  versions := [⟨"v1", true⟩]

/-- The annotation places the geese in a duck version that the specification does not name. Of the
two kinds of swans only the one referred to is there. -/
theorem gooseSpec_survey_lists_geese : ∃ findings,
    gooseSpec.survey [muteSwans, geese] none none = .ok findings ∧
      (∃ duck, findings.Lists "v3" duck ∧ duck.toIdentity = ⟨"pond.org/v1", "Goose"⟩) ∧
      (∃ duck, findings.Lists "v1" duck ∧ duck.toIdentity = ⟨"v1", "Swan"⟩) ∧
      ∀ v, ¬ ∃ duck, findings.Lists v duck ∧ duck.toIdentity = ⟨"pond.org/v1", "Swan"⟩ := by
  have hok : (gooseSpec.survey [muteSwans, geese] none none).isOk := by decide +kernel
  cases h : gooseSpec.survey [muteSwans, geese] none none with
  | error e => simp [h, Except.isOk, Except.toBool] at hok
  | ok findings =>
    refine ⟨findings, rfl, ?_, ?_, ?_⟩
    · refine (survey_lists_iff h _ _).mpr (Or.inr ⟨geese, ?_, ?_, "v1", ?_, ?_, ?_, ?_⟩)
      · refine ⟨[muteSwans], [], rfl, ⟨"bird=yes", List.mem_singleton_self _, ?_⟩, ?_⟩
        · exact ⟨⟨[.equals "bird" "yes"]⟩, by decide +kernel, by decide +kernel⟩
        · intro e he _
          rw [List.mem_singleton.mp he]
          decide
      · exact ⟨rfl, ⟨"v1", true⟩, List.mem_singleton_self _, rfl, by decide +kernel⟩
      · exact ⟨by decide, Or.inr ⟨"pond.org", by decide⟩⟩
      · intro value hv
        have hl : gooseSpec.LabelSays geese "true" := by
          rw [LabelSays]
          decide +kernel
        exact Option.some_inj.mp (hv.symm.trans hl)
      · intro hn
        refine absurd ⟨"v3", "v0 , v1", ?_⟩ hn
        rw [AnnotationSays]
        decide +kernel
      · intro _
        refine ⟨"v0 , v1", ?_, by decide, " v1".toList, by decide, by decide +kernel⟩
        rw [AnnotationSays]
        decide +kernel
    · refine (survey_lists_iff h _ _).mpr (Or.inl ?_)
      refine ⟨_, List.mem_cons_self, rfl, _, List.mem_singleton_self _, by decide, ?_⟩
      exact Or.inl ⟨by decide, rfl⟩
    · intro v hl
      rw [survey_lists_iff h] at hl
      obtain ⟨version, hv, -, r, hr, hpoints, -⟩ | ⟨d, hd, hs, -, -, hlabel, -⟩ := hl
      · have hrefs : ∀ version ∈ gooseSpec.versions, ∀ r ∈ version.refs, r.apiVersion = "v1" := by
          decide
        rw [hrefs version hv r hr, if_pos (by decide)] at hpoints
        exact absurd hpoints (by decide)
      · obtain ⟨before, after, hds, -⟩ := hd
        have hm : d ∈ [muteSwans, geese] := by simp [hds]
        have hkind : ∀ d ∈ [muteSwans, geese], "Swan" = d.kind → d = muteSwans := by decide +kernel
        obtain rfl := hkind d hm hs.1
        have hno : gooseSpec.LabelSays muteSwans "no" := by
          rw [LabelSays]
          decide +kernel
        exact absurd (hlabel _ hno) (by decide)

end Spec
end DuckCensus
