import DuckCensus.Proofs.Census.Buckets

/-! Whole runs of a census. What a definition or a reference contributes depends on the settings
only, so a run is known from the contributions of its sources in their order. -/
namespace DuckCensus
open Std

inductive Source where
  | definition (d : Definition)
  | reference (duckVersion : String) (r : Reference)

namespace Settings

/-- A served version of a definition counts in every default duck version, or in those that list
it, or nowhere. -/
def Counts (s : Settings) (d : Definition) (duckVersion : String) (duck : Duck) : Prop :=
  duck ∈ d.served ∧
    match Route.choose s.filters d.labels d.annotations with
    | .everywhere => duckVersion ∈ s.defaultVersions
    | .refused => False
    | .listed versions => ∃ listed, versions[duckVersion]? = some listed ∧ duck.version ∈ listed

def Contributes (s : Settings) (duckVersion : String) (duck : Duck) : Source → Prop
  | .definition d => s.Counts d duckVersion duck
  | .reference v r => v = duckVersion ∧ s.resolve r = .ok duck

/-- No source before one that contributes the duck with this scope contributes it at all. -/
def FirstContributes (s : Settings) (duckVersion : String) (i : Identity) (scope : Scope)
    (sources : List Source) : Prop :=
  ∃ before src after, sources = before ++ src :: after ∧
    (∃ duck, s.Contributes duckVersion duck src ∧ duck.toIdentity = i ∧ duck.scope = scope) ∧
    ∀ e ∈ before, ∀ duck, s.Contributes duckVersion duck e → duck.toIdentity ≠ i

def yieldSource (s : Settings) : Source → Yield
  | .definition d => s.yieldDefinition d
  | .reference v r =>
    match s.yieldReference v r with
    | .ok y => y
    | .error _ => {}

theorem mem_yieldListed {versions : ExtTreeMap String (ExtTreeSet String)} {ducks : List Duck}
    {v : String} {duck : Duck} :
    ⟨v, duck⟩ ∈ (yieldListed versions ducks).sightings ↔
      duck ∈ ducks ∧ ∃ listed, versions[v]? = some listed ∧ duck.version ∈ listed := by
  simp only [yieldListed, List.mem_flatMap, List.mem_map, List.mem_filter, Prod.exists,
    ExtTreeMap.mem_toList_iff_getElem?_eq_some, decide_eq_true_eq, Sighting.mk.injEq]
  constructor
  · intro h
    obtain ⟨d, hd, w, listed, ⟨hw, hv⟩, rfl, rfl⟩ := h
    exact ⟨hd, listed, hw, hv⟩
  · intro h
    obtain ⟨hd, listed, hw, hv⟩ := h
    exact ⟨duck, hd, v, listed, ⟨hw, hv⟩, rfl, rfl⟩

theorem mem_yieldDefinition {s : Settings} {d : Definition} {v : String} {duck : Duck} :
    ⟨v, duck⟩ ∈ (s.yieldDefinition d).sightings ↔ s.Counts d v duck := by
  unfold yieldDefinition Counts
  by_cases h : d.served = []
  · simp [h]
  · rw [if_neg h]
    cases Route.choose s.filters d.labels d.annotations with
    | everywhere => simp [and_comm]
    | refused => simp
    | listed versions => exact mem_yieldListed

theorem mem_yieldSource {s : Settings} {src : Source} {v : String} {duck : Duck} :
    ⟨v, duck⟩ ∈ (s.yieldSource src).sightings ↔ s.Contributes v duck src := by
  cases src with
  | definition d => exact mem_yieldDefinition
  | reference w r =>
    cases h : s.resolve r with
    | error e => simp [yieldSource, yieldReference, Contributes, h, Except.map]
    | ok d =>
      simp only [yieldSource, yieldReference, Contributes, h, Except.map, List.mem_singleton,
        Sighting.mk.injEq, Except.ok.injEq]
      exact and_congr eq_comm eq_comm

/-- All that one source contributes of a duck has one scope. -/
theorem scope_eq_of_contributes {s : Settings} {src : Source} {v : String} {a b : Duck}
    (ha : s.Contributes v a src) (hb : s.Contributes v b src) : a.scope = b.scope := by
  cases src with
  | definition d =>
    have hs : ∀ x ∈ d.served, x.scope = d.scope := by
      intro x hx
      obtain ⟨n, -, rfl⟩ := List.mem_map.mp hx
      rfl
    rw [hs a ha.1, hs b hb.1]
  | reference w r =>
    have h := ha.2.symm.trans hb.2
    cases h
    rfl

theorem firstScope?_yieldSource_eq_none_iff {s : Settings} {src : Source} {v : String}
    {i : Identity} :
    Census.firstScope? v i (s.yieldSource src).sightings = none ↔
      ∀ duck, s.Contributes v duck src → duck.toIdentity ≠ i := by
  rw [← not_iff_not, ← ne_eq, Option.ne_none_iff_isSome, Census.isSome_firstScope?_iff]
  push Not
  constructor
  · intro h
    obtain ⟨⟨w, duck⟩, hm, rfl, hi⟩ := h
    exact ⟨duck, mem_yieldSource.mp hm, hi⟩
  · intro h
    obtain ⟨duck, hc, hi⟩ := h
    exact ⟨⟨v, duck⟩, mem_yieldSource.mpr hc, rfl, hi⟩

theorem firstScope?_yieldSource_eq_some_iff {s : Settings} {src : Source} {v : String}
    {i : Identity} {scope : Scope} :
    Census.firstScope? v i (s.yieldSource src).sightings = some scope ↔
      ∃ duck, s.Contributes v duck src ∧ duck.toIdentity = i ∧ duck.scope = scope := by
  constructor
  · intro h
    obtain ⟨duck, hm, hi, hs⟩ := Census.exists_mem_of_firstScope? h
    exact ⟨duck, mem_yieldSource.mp hm, hi, hs⟩
  · intro h
    obtain ⟨duck, hc, hi, rfl⟩ := h
    obtain ⟨scope, h⟩ := Option.ne_none_iff_exists'.mp fun hn =>
      firstScope?_yieldSource_eq_none_iff.mp hn duck hc hi
    obtain ⟨first, hm, -, rfl⟩ := Census.exists_mem_of_firstScope? h
    rw [h, scope_eq_of_contributes (mem_yieldSource.mp hm) hc]

theorem firstContributes_cons {s : Settings} {v : String} {i : Identity} {scope : Scope}
    {src : Source} {sources : List Source} :
    s.FirstContributes v i scope (src :: sources) ↔
      (∃ duck, s.Contributes v duck src ∧ duck.toIdentity = i ∧ duck.scope = scope) ∨
      (∀ duck, s.Contributes v duck src → duck.toIdentity ≠ i) ∧
        s.FirstContributes v i scope sources := by
  constructor
  · intro h
    obtain ⟨before, e, after, he, hc, hb⟩ := h
    obtain ⟨rfl, h⟩ | ⟨before, rfl, rfl⟩ := List.cons_eq_append_iff.mp he
    · cases h
      exact Or.inl hc
    · exact Or.inr ⟨hb src List.mem_cons_self, before, e, after, rfl, hc,
        fun x hx => hb x (List.mem_cons_of_mem src hx)⟩
  · intro h
    obtain hc | ⟨hn, before, e, after, rfl, hc, hb⟩ := h
    · exact ⟨[], src, sources, rfl, hc, by simp⟩
    · exact ⟨src :: before, e, after, rfl, hc, List.forall_mem_cons.mpr ⟨hn, hb⟩⟩

/-- The first sighting comes from the first source that contributes the duck. -/
theorem firstScope?_flatMap_yieldSource {s : Settings} {sources : List Source} {v : String}
    {i : Identity} {scope : Scope} :
    Census.firstScope? v i (sources.flatMap fun src => (s.yieldSource src).sightings) =
        some scope ↔ s.FirstContributes v i scope sources := by
  induction sources with
  | nil => simp [Census.firstScope?, FirstContributes]
  | cons src sources ih =>
    rw [List.flatMap_cons, Census.firstScope?_append, Option.or_eq_some_iff, ih,
      firstContributes_cons, firstScope?_yieldSource_eq_none_iff,
      firstScope?_yieldSource_eq_some_iff]

/-- Among finitely many sources that contribute a duck there is a first one. -/
theorem exists_firstContributes {s : Settings} {sources : List Source} {v : String} {i : Identity} :
    (∃ scope, s.FirstContributes v i scope sources) ↔
      ∃ src ∈ sources, ∃ duck, s.Contributes v duck src ∧ duck.toIdentity = i := by
  simp only [← firstScope?_flatMap_yieldSource, ← Option.isSome_iff_exists,
    Census.isSome_firstScope?_iff, List.mem_flatMap]
  constructor
  · intro h
    obtain ⟨⟨w, duck⟩, ⟨src, hs, hm⟩, rfl, hi⟩ := h
    exact ⟨src, hs, duck, mem_yieldSource.mp hm, hi⟩
  · intro h
    obtain ⟨src, hs, duck, hc, hi⟩ := h
    exact ⟨⟨v, duck⟩, ⟨src, hs, mem_yieldSource.mpr hc⟩, rfl, hi⟩

@[simp]
theorem mem_defaultVersions_withoutRepeats {s : Settings} {v : String} :
    v ∈ s.withoutRepeats.defaultVersions ↔ v ∈ s.defaultVersions := List.mem_eraseDups

/-- The first of two equal names keeps its place. -/
example : withoutRepeats { defaultVersions := ["v2", "v1", "v2"] } =
    { defaultVersions := ["v2", "v1"] } := by rfl

/-- Naming a default duck version twice changes nothing of what counts in it. -/
theorem contributes_withoutRepeats {s : Settings} {v : String} {duck : Duck} {src : Source} :
    s.withoutRepeats.Contributes v duck src ↔ s.Contributes v duck src := by
  cases src with
  | definition d =>
    have hfilters : s.withoutRepeats.filters = s.filters := rfl
    rw [Contributes, Contributes, Counts, Counts, hfilters]
    cases Route.choose s.filters d.labels d.annotations with
    | everywhere => simp only [mem_defaultVersions_withoutRepeats]
    | refused => rfl
    | listed versions => rfl
  | reference w r => rfl

theorem firstContributes_withoutRepeats {s : Settings} {v : String} {i : Identity} {scope : Scope}
    {sources : List Source} : s.withoutRepeats.FirstContributes v i scope sources ↔
      s.FirstContributes v i scope sources := by
  simp only [FirstContributes, contributes_withoutRepeats]

/-- A duck version in which something counts is a default one or declared with it. -/
theorem declared_of_contributes {s : Settings} {src : Source} {v : String} {duck : Duck}
    (h : s.Contributes v duck src) :
    v ∈ s.defaultVersions ∨ v ∈ (s.yieldSource src).declared := by
  cases src with
  | definition d =>
    obtain ⟨hd, hr⟩ := h
    have hne : d.served ≠ [] := List.ne_nil_of_mem hd
    simp only [yieldSource, yieldDefinition, if_neg hne]
    cases hc : Route.choose s.filters d.labels d.annotations with
    | everywhere => rw [hc] at hr; exact Or.inl hr
    | refused => rw [hc] at hr; exact False.elim hr
    | listed versions =>
      rw [hc] at hr
      obtain ⟨listed, hl, -⟩ := hr
      have hv : v ∈ versions := by rw [ExtTreeMap.mem_iff_isSome_getElem?, hl]; rfl
      exact Or.inr (ExtTreeMap.mem_keys.mpr hv)
  | reference w r =>
    obtain ⟨rfl, hr⟩ := h
    simp [yieldSource, yieldReference, hr, Except.map]

end Settings

namespace Census

inductive Call where
  | addDefinition (d : Definition)
  | addDefinitions (ds : List Definition)
  | addReference (duckVersion : String) (r : Reference)

def Call.sources : Call → List Source
  | .addDefinition d => [.definition d]
  | .addDefinitions ds => ds.map .definition
  | .addReference v r => [.reference v r]

def perform (c : Census) : Call → Census
  | .addDefinition d => c.addDefinition d
  | .addDefinitions ds => c.addDefinitions ds
  | .addReference v r => (c.tryReference v r).1

def run (c : Census) (calls : List Call) : Census := calls.foldl perform c

def take (c : Census) (src : Source) : Census := c.add (c.settings.yieldSource src)

def takeAll (c : Census) (sources : List Source) : Census := sources.foldl take c

theorem add_empty (c : Census) : c.add {} = c := by
  simp [add]

theorem takeAll_append (c : Census) (a b : List Source) :
    c.takeAll (a ++ b) = (c.takeAll a).takeAll b := List.foldl_append

theorem addDefinitions_eq_takeAll (c : Census) (ds : List Definition) :
    c.addDefinitions ds = c.takeAll (ds.map .definition) := by
  simp only [addDefinitions, takeAll, List.foldl_map]
  rfl

theorem perform_addReference (c : Census) (v : String) (r : Reference) :
    c.perform (.addReference v r) = c.take (.reference v r) := by
  simp only [perform, tryReference, take, Settings.yieldSource]
  cases c.settings.yieldReference v r with
  | ok y => rfl
  | error e => exact c.add_empty.symm

theorem perform_eq_takeAll (c : Census) (call : Call) :
    c.perform call = c.takeAll call.sources := by
  cases call with
  | addDefinition d => rfl
  | addDefinitions ds => exact c.addDefinitions_eq_takeAll ds
  | addReference v r => exact c.perform_addReference v r

theorem run_eq_takeAll (c : Census) (calls : List Call) :
    c.run calls = c.takeAll (calls.flatMap Call.sources) := by
  induction calls generalizing c with
  | nil => rfl
  | cons call calls ih =>
    rw [List.flatMap_cons, takeAll_append, ← perform_eq_takeAll]
    exact ih (c.perform call)

theorem takeAll_settings (c : Census) (sources : List Source) :
    (c.takeAll sources).settings = c.settings := by
  induction sources generalizing c with
  | nil => rfl
  | cons src sources ih => exact ih (c.take src)

theorem takeAll_sightings (c : Census) (sources : List Source) :
    (c.takeAll sources).sightings =
      c.sightings ++ sources.flatMap fun src => (c.settings.yieldSource src).sightings := by
  induction sources generalizing c with
  | nil => simp [takeAll]
  | cons src sources ih =>
    have h := ih (c.take src)
    simpa [take, add, takeAll] using h

/-- Sources that yield the same sightings lead to the same findings. -/
theorem findings_takeAll_congr {s : Settings} {a b : List Source}
    (h : (a.flatMap fun src => (s.withoutRepeats.yieldSource src).sightings) =
      b.flatMap fun src => (s.withoutRepeats.yieldSource src).sightings) :
    ((start s).takeAll a).findings = ((start s).takeAll b).findings := by
  have hs : ((start s).takeAll a).sightings = ((start s).takeAll b).sightings := by
    rw [takeAll_sightings, takeAll_sightings]
    exact congrArg _ h
  rw [findings, findings, hs, takeAll_settings, takeAll_settings]

theorem firstScope?_takeAll (s : Settings) (sources : List Source) (v : String) (i : Identity) :
    firstScope? v i ((start s).takeAll sources).sightings = firstScope? v i
      (sources.flatMap fun src => (s.withoutRepeats.yieldSource src).sightings) := by
  rw [takeAll_sightings]
  rfl

theorem firstScope?_takeAll_eq_some_iff {s : Settings} {sources : List Source} {v : String}
    {i : Identity} {scope : Scope} :
    firstScope? v i ((start s).takeAll sources).sightings = some scope ↔
      s.FirstContributes v i scope sources := by
  rw [firstScope?_takeAll, Settings.firstScope?_flatMap_yieldSource,
    Settings.firstContributes_withoutRepeats]

theorem findings_lists_takeAll_iff {s : Settings} {sources : List Source} {v : String}
    {duck : Duck} :
    ((start s).takeAll sources).findings.Lists v duck ↔
      s.FirstContributes v duck.toIdentity duck.scope sources ∧
        duck.accessible = s.grants.allows duck.toIdentity := by
  rw [findings_lists_iff, firstScope?_takeAll_eq_some_iff, takeAll_settings]
  rfl

theorem exists_findings_lists_iff {s : Settings} {sources : List Source} {v : String}
    {i : Identity} :
    (∃ duck, ((start s).takeAll sources).findings.Lists v duck ∧ duck.toIdentity = i) ↔
      ∃ src ∈ sources, ∃ duck, s.Contributes v duck src ∧ duck.toIdentity = i := by
  rw [← Settings.exists_firstContributes]
  constructor
  · intro h
    obtain ⟨duck, hd, rfl⟩ := h
    exact ⟨duck.scope, (findings_lists_takeAll_iff.mp hd).1⟩
  · intro h
    obtain ⟨scope, hf⟩ := h
    refine ⟨s.grants.mark { toIdentity := i, scope }, ?_, rfl⟩
    exact findings_lists_takeAll_iff.mpr ⟨hf, rfl⟩

structure Declares (c : Census) : Prop where
  defaults : ∀ v ∈ c.settings.defaultVersions, v ∈ c.declared
  sightings : ∀ s ∈ c.sightings, s.duckVersion ∈ c.declared

theorem declares_start (s : Settings) : (start s).Declares where
  defaults := by simp [start]
  sightings := by simp [start]

theorem Declares.take {c : Census} (h : c.Declares) (src : Source) : (c.take src).Declares where
  defaults v hv := ExtTreeSet.mem_insertMany_list.mpr (Or.inl (h.defaults v hv))
  sightings s hs := by
    simp only [Census.take, add, ExtTreeSet.mem_insertMany_list, List.contains_iff_mem]
    cases List.mem_append.mp hs with
    | inl hs => exact Or.inl (h.sightings s hs)
    | inr hs =>
      cases Settings.declared_of_contributes (Settings.mem_yieldSource.mp hs) with
      | inl hv => exact Or.inl (h.defaults _ hv)
      | inr hv => exact Or.inr hv

theorem Declares.takeAll {c : Census} (h : c.Declares) (sources : List Source) :
    (c.takeAll sources).Declares := by
  induction sources generalizing c with
  | nil => exact h
  | cons src sources ih => exact ih (h.take src)

theorem Declares.mem_versions {c : Census} (h : c.Declares) {v : String} (hv : v ∈ c.findings) :
    v ∈ c.versions := by
  obtain ⟨s, hs, rfl⟩ := mem_findings_iff.mp hv
  exact ExtTreeSet.mem_toList.mpr (h.sightings s hs)

/-- Later sources change nothing of what the findings list. -/
theorem findings_lists_takeAll {c : Census} {v : String} {duck : Duck}
    (h : c.findings.Lists v duck) (sources : List Source) :
    (c.takeAll sources).findings.Lists v duck := by
  rw [findings_lists_iff] at h ⊢
  rw [takeAll_settings, takeAll_sightings, firstScope?_append, h.1]
  exact ⟨rfl, h.2⟩

end Census
end DuckCensus
