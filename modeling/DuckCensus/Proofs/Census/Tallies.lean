import DuckCensus.Proofs.Census.Reordering
import DuckCensus.Proofs.Census.Resolution
import DuckCensus.Proofs.Route

/-! What a census declares and counts besides the ducks. A definition that is counted yields no
duck, yet the duck versions that its annotations name are declared. -/
namespace DuckCensus
open Std Text

namespace Tally

theorem plus_assoc (t u v : Tally) : (t.plus u).plus v = t.plus (u.plus v) := by
  simp only [plus, Nat.add_assoc]

theorem zero_plus (t : Tally) : plus {} t = t := by
  simp only [plus, Nat.zero_add]

end Tally

namespace Settings

def Refuses (s : Settings) (d : Definition) : Prop :=
  d.served ≠ [] ∧ Route.choose s.filters d.labels d.annotations = .refused

def Misses (s : Settings) (d : Definition) : Prop :=
  d.served ≠ [] ∧ ∃ versions, Route.choose s.filters d.labels d.annotations = .listed versions ∧
    ∀ (v : String) (listed : ExtTreeSet String), versions[v]? = some listed →
      ∀ duck ∈ d.served, duck.version ∉ listed

/-- A definition that annotations place declares the duck versions behind the stem, unless it serves
no version. A reference that resolves declares its own. -/
def Declares (s : Settings) (v : String) : Source → Prop
  | .definition d => d.served ≠ [] ∧ ∃ f versions, s.filters = some f ∧
      Route.choose s.filters d.labels d.annotations = .listed versions ∧
      f.versionStem ++ "/" ++ v ∈ d.annotations
  | .reference w r => w = v ∧ ∃ duck, s.resolve r = .ok duck

variable {s : Settings} {d : Definition}

/-- No definition is counted twice. -/
theorem Refuses.not_misses (h : s.Refuses d) : ¬ s.Misses d := by
  intro hm
  obtain ⟨-, versions, hv, -⟩ := hm
  cases h.2.symm.trans hv

theorem sightings_yieldListed_eq_nil_iff {versions : ExtTreeMap String (ExtTreeSet String)}
    {ducks : List Duck} : (yieldListed versions ducks).sightings = [] ↔
      ∀ (v : String) (listed : ExtTreeSet String), versions[v]? = some listed →
        ∀ duck ∈ ducks, duck.version ∉ listed := by
  rw [List.eq_nil_iff_forall_not_mem]
  constructor
  · intro h v listed hl duck hd hm
    exact h ⟨v, duck⟩ (mem_yieldListed.mpr ⟨hd, listed, hl, hm⟩)
  · intro h sighting hs
    obtain ⟨hd, listed, hl, hm⟩ := mem_yieldListed.mp hs
    exact h _ listed hl _ hd hm

/-! What a definition yields, by its route. -/

theorem yieldDefinition_of_unserved (h : d.served = []) : s.yieldDefinition d = {} := if_pos h

theorem yieldDefinition_of_refuses (h : s.Refuses d) :
    s.yieldDefinition d = { tally := ⟨1, 0⟩ } := by
  rw [yieldDefinition, if_neg h.1, h.2]

theorem yieldDefinition_of_listed {versions : ExtTreeMap String (ExtTreeSet String)}
    (hd : d.served ≠ [])
    (h : Route.choose s.filters d.labels d.annotations = .listed versions) :
    s.yieldDefinition d = yieldListed versions d.served := by
  rw [yieldDefinition, if_neg hd, h]

theorem misses_iff_of_listed {versions : ExtTreeMap String (ExtTreeSet String)}
    (hd : d.served ≠ [])
    (h : Route.choose s.filters d.labels d.annotations = .listed versions) :
    s.Misses d ↔ (yieldListed versions d.served).sightings = [] := by
  rw [sightings_yieldListed_eq_nil_iff]
  constructor
  · intro hm
    obtain ⟨-, versions', hv, hm⟩ := hm
    cases hv.symm.trans h
    exact hm
  · intro hm
    exact ⟨hd, versions, h, hm⟩

theorem tally_yieldDefinition (s : Settings) (d : Definition) [Decidable (s.Refuses d)]
    [Decidable (s.Misses d)] : (s.yieldDefinition d).tally =
      ⟨if s.Refuses d then 1 else 0, if s.Misses d then 1 else 0⟩ := by
  by_cases hd : d.served = []
  · rw [yieldDefinition_of_unserved hd, if_neg fun h => h.1 hd, if_neg fun h => h.1 hd]
  · cases hc : Route.choose s.filters d.labels d.annotations with
    | everywhere =>
      have hr : ¬ s.Refuses d := by simp [Refuses, hc]
      have hm : ¬ s.Misses d := by simp [Misses, hc]
      rw [yieldDefinition, if_neg hd, hc, if_neg hr, if_neg hm]
    | refused =>
      have hr : s.Refuses d := ⟨hd, hc⟩
      rw [yieldDefinition_of_refuses hr, if_pos hr, if_neg hr.not_misses]
    | listed versions =>
      have hr : ¬ s.Refuses d := by simp [Refuses, hc]
      rw [yieldDefinition_of_listed hd hc, if_neg hr]
      simp only [misses_iff_of_listed hd hc, yieldListed]

/-- A definition that is counted yields no duck. -/
theorem sightings_yieldDefinition (h : s.Refuses d ∨ s.Misses d) :
    (s.yieldDefinition d).sightings = [] := by
  cases h with
  | inl hr => rw [yieldDefinition_of_refuses hr]
  | inr hm =>
    obtain ⟨hd, versions, hc, hv⟩ := hm
    rw [yieldDefinition_of_listed hd hc, sightings_yieldListed_eq_nil_iff]
    exact hv

instance (s : Settings) : DecidablePred s.Refuses := fun _ => instDecidableAnd

instance (s : Settings) : DecidablePred s.Misses := fun d =>
  decidable_of_iff ((s.yieldDefinition d).tally.unmatched = 1) <| by
    classical
    rw [tally_yieldDefinition]
    by_cases h : s.Misses d <;> simp [h]

def count (s : Settings) (ds : List Definition) : Tally :=
  ⟨ds.countP (s.Refuses ·), ds.countP (s.Misses ·)⟩

theorem count_cons (s : Settings) (d : Definition) (ds : List Definition) :
    s.count (d :: ds) = (s.yieldDefinition d).tally.plus (s.count ds) := by
  simp only [count, Tally.plus, tally_yieldDefinition, List.countP_cons, decide_eq_true_eq,
    Nat.add_comm]

theorem count_append (s : Settings) (a b : List Definition) :
    s.count (a ++ b) = (s.count a).plus (s.count b) := by
  simp only [count, Tally.plus, List.countP_append]

theorem mem_declared_yieldSource {src : Source} {v : String} :
    v ∈ (s.yieldSource src).declared ↔ s.Declares v src := by
  cases src with
  | definition d =>
    by_cases hd : d.served = []
    · simp [yieldSource, yieldDefinition, Declares, hd]
    · cases hc : Route.choose s.filters d.labels d.annotations with
      | everywhere => simp [yieldSource, yieldDefinition, Declares, hc, hd]
      | refused => simp [yieldSource, yieldDefinition, Declares, hc, hd]
      | listed versions =>
        obtain ⟨f, hf, hl⟩ := Route.exists_lists_of_choose hc
        simp only [yieldSource, yieldDefinition_of_listed hd hc, yieldListed, ExtTreeMap.mem_keys]
        rw [(hl v).1]
        constructor
        · intro hv
          exact ⟨hd, f, versions, hf, hc, hv⟩
        · intro h
          obtain ⟨-, f', -, hf', -, hv⟩ := h
          cases hf.symm.trans hf'
          exact hv
  | reference w r =>
    cases hr : s.resolve r with
    | error e => simp [yieldSource, yieldReference, Declares, hr, Except.map]
    | ok duck => simp [yieldSource, yieldReference, Declares, hr, Except.map, eq_comm]

/-! Repeated default duck versions are neither declared nor counted otherwise. -/

theorem declares_withoutRepeats {src : Source} {v : String} :
    s.withoutRepeats.Declares v src ↔ s.Declares v src := by
  cases src <;> rfl

theorem count_withoutRepeats (s : Settings) (ds : List Definition) :
    s.withoutRepeats.count ds = s.count ds := by
  have hrefuses : s.withoutRepeats.Refuses = s.Refuses := rfl
  have hmisses : s.withoutRepeats.Misses = s.Misses := rfl
  simp only [count, hrefuses, hmisses]

end Settings

namespace Census

def Call.definitions : Call → List Definition
  | .addDefinition d => [d]
  | .addDefinitions ds => ds
  | .addReference _ _ => []

theorem take_reference_tally (c : Census) (v : String) (r : Reference) :
    (c.take (.reference v r)).tally = c.tally := by
  cases hr : c.settings.resolve r <;>
    simp [take, add, Settings.yieldSource, Settings.yieldReference, hr, Except.map]

theorem takeAll_definitions_tally (c : Census) (ds : List Definition) :
    (c.takeAll (ds.map .definition)).tally = c.tally.plus (c.settings.count ds) := by
  induction ds generalizing c with
  | nil => rfl
  | cons d ds ih =>
    rw [Settings.count_cons, ← Tally.plus_assoc]
    exact ih (c.take (.definition d))

theorem perform_tally (c : Census) (call : Call) :
    (c.perform call).tally = c.tally.plus (c.settings.count call.definitions) := by
  rw [perform_eq_takeAll]
  cases call with
  | addDefinition d => exact c.takeAll_definitions_tally [d]
  | addDefinitions ds => exact c.takeAll_definitions_tally ds
  | addReference v r => exact c.take_reference_tally v r

theorem run_tally (c : Census) (calls : List Call) :
    (c.run calls).tally = c.tally.plus (c.settings.count (calls.flatMap Call.definitions)) := by
  induction calls generalizing c with
  | nil => rfl
  | cons call calls ih =>
    have hsettings : (c.perform call).settings = c.settings := by
      rw [perform_eq_takeAll, takeAll_settings]
    rw [List.flatMap_cons, Settings.count_append, ← Tally.plus_assoc, ← perform_tally, ← hsettings]
    exact ih (c.perform call)

theorem mem_versions_run {s : Settings} {calls : List Call} {v : String} :
    v ∈ ((start s).run calls).versions ↔
      v ∈ s.defaultVersions ∨ ∃ src ∈ calls.flatMap Call.sources, s.Declares v src := by
  rw [versions, ExtTreeSet.mem_toList, run_eq_takeAll, mem_declared_takeAll]
  simp only [start, ExtTreeSet.mem_ofList, List.contains_iff_mem,
    Settings.mem_declared_yieldSource, Settings.declares_withoutRepeats]

theorem versions_ascending (c : Census) :
    c.versions.Pairwise fun v w => bytes v < bytes w :=
  ExtTreeSet.ordered_toList.imp fun h => Text.compare_eq_lt_iff.mp h

/-- A definition that yields no sighting leaves the findings as they are. -/
theorem findings_addDefinition {c : Census} {d : Definition}
    (h : (c.settings.yieldDefinition d).sightings = []) :
    (c.addDefinition d).findings = c.findings := by
  simp only [findings, addDefinition, add, h, List.append_nil]

def pondSettings : Settings where
  filters := some ⟨"pond.org/goose", "geese.pond.org"⟩
  defaultVersions := ["v1"]

def wildGoose : Definition where
  metadata := { labels := some (.ofList [("pond.org/goose", "wild")]) }
  group := "pond.org"
  scope := .namespaced
  kind := "Goose"
  versions := [⟨"v2", true⟩]

-- it serves one version, and its annotation lists another
def lostGosling : Definition where
  metadata := { annotations := some (.ofList [("geese.pond.org/v7", "v3")]) }
  group := "pond.org"
  scope := .namespaced
  kind := "Gosling"
  versions := [⟨"v2", true⟩, ⟨"v3", false⟩]

def pondCalls : List Call :=
  [.addDefinitions [wildGoose, lostGosling], .addDefinition { lostGosling with versions := [] },
    .addReference "v9" { resource := "swans" }]

end Census
end DuckCensus
