import DuckCensus.Proofs.Census.Runs

/-! Runs made of the same calls. Neither the order of the calls nor their repetition shows in the
declared versions or, scopes apart, in the findings. -/
namespace DuckCensus
open Std

def Duck.unscoped (d : Duck) : Identity × Bool := (d.toIdentity, d.accessible)

namespace Tally

def plus (t u : Tally) : Tally := ⟨t.refused + u.refused, t.unmatched + u.unmatched⟩

theorem plus_right_comm (t u v : Tally) : (t.plus u).plus v = (t.plus v).plus u := by
  simp only [plus, Nat.add_right_comm]

end Tally

namespace Settings

/-- No two contributions of a duck to a duck version differ in scope. -/
def ScopesAgree (s : Settings) (sources : List Source) : Prop :=
  ∀ x ∈ sources, ∀ y ∈ sources, ∀ v a b, s.Contributes v a x → s.Contributes v b y →
    a.toIdentity = b.toIdentity → a.scope = b.scope

/-- Where scopes agree, the first contribution of a duck is like any other. -/
theorem ScopesAgree.firstContributes_iff {s : Settings} {sources : List Source}
    (h : s.ScopesAgree sources) {v : String} {i : Identity} {scope : Scope} :
    s.FirstContributes v i scope sources ↔
      ∃ src ∈ sources, ∃ duck, s.Contributes v duck src ∧ duck.toIdentity = i ∧
        duck.scope = scope := by
  constructor
  · intro hf
    obtain ⟨before, src, after, rfl, hc, -⟩ := hf
    exact ⟨src, by simp, hc⟩
  · intro hc
    obtain ⟨src, hs, duck, hc, rfl, rfl⟩ := hc
    obtain ⟨scope, hf⟩ := exists_firstContributes.mpr ⟨src, hs, duck, hc, rfl⟩
    have hscope : scope = duck.scope := by
      obtain ⟨before, first, after, rfl, ⟨other, ho, hi, rfl⟩, -⟩ := hf
      exact h first (by simp) src hs v other duck ho hc hi
    rwa [hscope] at hf

theorem ScopesAgree.congr {s : Settings} {a b : List Source} (ha : s.ScopesAgree a)
    (h : ∀ src, src ∈ a ↔ src ∈ b) : s.ScopesAgree b :=
  fun x hx y hy => ha x ((h x).mpr hx) y ((h y).mpr hy)

end Settings

namespace Census

/-- What is listed in a duck version determines the bucket, as far as `f` keeps the identities. -/
theorem map_findings_congr {α : Type} {f : Duck → α} (key : α → Identity)
    (hkey : ∀ duck, key (f duck) = duck.toIdentity) {c d : Census} {v : String}
    (h : ∀ a, (∃ duck, c.findings.Lists v duck ∧ f duck = a) ↔
      ∃ duck, d.findings.Lists v duck ∧ f duck = a) :
    c.findings[v]?.map (List.map f) = d.findings[v]?.map (List.map f) := by
  have hsorted {e : Census} {ducks : List Duck} (he : e.findings[v]? = some ducks) :
      (ducks.map f).Pairwise fun a b => (key a).Precedes (key b) := by
    simp only [List.pairwise_map, hkey]
    exact findings_sorted he
  have hsome : c.findings[v]?.isSome ↔ d.findings[v]?.isSome := by
    rw [isSome_findings_iff, isSome_findings_iff]
    constructor
    · intro hl
      obtain ⟨duck, hl⟩ := hl
      obtain ⟨other, ho, -⟩ := (h (f duck)).mp ⟨duck, hl, rfl⟩
      exact ⟨other, ho⟩
    · intro hl
      obtain ⟨duck, hl⟩ := hl
      obtain ⟨other, ho, -⟩ := (h (f duck)).mpr ⟨duck, hl, rfl⟩
      exact ⟨other, ho⟩
  cases hc : c.findings[v]? with
  | none =>
    cases hd : d.findings[v]? with
    | none => rfl
    | some ducks => simp [hc, hd] at hsome
  | some ducks =>
    cases hd : d.findings[v]? with
    | none => simp [hc, hd] at hsome
    | some others =>
      refine congrArg some (Identity.eq_of_mem_iff (hsorted hc) (hsorted hd) fun a => ?_)
      simpa [Findings.Lists, hc, hd] using h a

theorem exists_lists_unscoped_iff {c : Census} {v : String} {i : Identity} {marked : Bool} :
    (∃ duck, c.findings.Lists v duck ∧ duck.unscoped = (i, marked)) ↔
      (firstScope? v i c.sightings).isSome ∧ marked = c.settings.grants.allows i := by
  simp only [findings_lists_iff, Option.isSome_iff_exists]
  constructor
  · intro h
    obtain ⟨duck, ⟨hs, ha⟩, hu⟩ := h
    cases hu
    exact ⟨⟨duck.scope, hs⟩, ha⟩
  · intro h
    obtain ⟨⟨scope, hs⟩, rfl⟩ := h
    exact ⟨c.settings.grants.mark { toIdentity := i, scope }, ⟨hs, rfl⟩, rfl⟩

/-- What was seen at all determines the findings but for their scopes. -/
theorem findings_unscoped_congr {c d : Census} (hg : c.settings.grants = d.settings.grants)
    {v : String}
    (h : ∀ i, (firstScope? v i c.sightings).isSome = (firstScope? v i d.sightings).isSome) :
    c.findings[v]?.map (List.map Duck.unscoped) = d.findings[v]?.map (List.map Duck.unscoped) := by
  refine map_findings_congr Prod.fst (fun _ => rfl) ?_
  rintro ⟨i, marked⟩
  rw [exists_lists_unscoped_iff, exists_lists_unscoped_iff, h, hg]

/-- The first scopes determine the findings. -/
theorem findings_congr {c d : Census} (hg : c.settings.grants = d.settings.grants)
    (h : ∀ v i, firstScope? v i c.sightings = firstScope? v i d.sightings) :
    c.findings = d.findings := by
  refine ExtTreeMap.ext_getElem? fun v => ?_
  have hv := map_findings_congr (f := id) Duck.toIdentity (fun _ => rfl) (c := c)
    (d := d) (v := v) fun a => by simp only [findings_lists_iff, h, hg]
  simpa using hv

theorem isSome_firstScope?_takeAll_iff {s : Settings} {sources : List Source} {v : String}
    {i : Identity} : (firstScope? v i ((start s).takeAll sources).sightings).isSome ↔
      ∃ src ∈ sources, ∃ duck, s.Contributes v duck src ∧ duck.toIdentity = i := by
  simp only [Option.isSome_iff_exists, firstScope?_takeAll_eq_some_iff,
    Settings.exists_firstContributes]

/-- Settings with one policy under which the sources yield alike lead to the same findings. -/
theorem findings_takeAll_eq_of_yields {s s' : Settings} {sources : List Source}
    (hg : s.grants = s'.grants)
    (h : ∀ src ∈ sources, s.withoutRepeats.yieldSource src = s'.withoutRepeats.yieldSource src) :
    ((start s).takeAll sources).findings = ((start s').takeAll sources).findings := by
  apply findings_congr
  · rw [takeAll_settings, takeAll_settings]
    exact hg
  · intro v i
    rw [firstScope?_takeAll, firstScope?_takeAll]
    exact congrArg (firstScope? v i) (List.flatMap_congr fun src hs => by rw [h src hs])

/-! The sources may come in another order, and the settings may be others under which they
contribute alike. -/
section Alike
variable {s s' : Settings} {a b : List Source} (hgrants : s.grants = s'.grants)
  (hcontributes : ∀ src v duck, s.Contributes v duck src ↔ s'.Contributes v duck src)
  (hsources : ∀ src, src ∈ a ↔ src ∈ b)
include hgrants hcontributes hsources

theorem findings_takeAll_unscoped_congr (v : String) :
    ((start s).takeAll a).findings[v]?.map (List.map Duck.unscoped) =
      ((start s').takeAll b).findings[v]?.map (List.map Duck.unscoped) := by
  apply findings_unscoped_congr
  · rw [takeAll_settings, takeAll_settings]
    exact hgrants
  · intro i
    rw [Bool.eq_iff_iff, isSome_firstScope?_takeAll_iff, isSome_firstScope?_takeAll_iff]
    simp only [hcontributes, hsources]

theorem findings_takeAll_eq_of_scopesAgree (ha : s.ScopesAgree a) :
    ((start s).takeAll a).findings = ((start s').takeAll b).findings := by
  have hb : s'.ScopesAgree b := by
    simpa only [Settings.ScopesAgree, hcontributes, hsources] using ha
  apply findings_congr
  · rw [takeAll_settings, takeAll_settings]
    exact hgrants
  · intro v i
    refine Option.ext fun scope => ?_
    rw [firstScope?_takeAll_eq_some_iff, firstScope?_takeAll_eq_some_iff, ha.firstContributes_iff,
      hb.firstContributes_iff]
    simp only [hcontributes, hsources]

end Alike

theorem mem_declared_takeAll {c : Census} {sources : List Source} {v : String} :
    v ∈ (c.takeAll sources).declared ↔
      v ∈ c.declared ∨ ∃ src ∈ sources, v ∈ (c.settings.yieldSource src).declared := by
  induction sources generalizing c with
  | nil => simp [takeAll]
  | cons src sources ih =>
    have hstep : v ∈ (c.take src).declared ↔
        v ∈ c.declared ∨ v ∈ (c.settings.yieldSource src).declared := by
      simp [take, add]
    have htail := ih (c := c.take src)
    rw [hstep, or_assoc] at htail
    rw [List.exists_mem_cons_iff]
    exact htail

theorem takeAll_tally (c : Census) (sources : List Source) :
    (c.takeAll sources).tally =
      sources.foldl (fun t src => t.plus (c.settings.yieldSource src).tally) c.tally := by
  induction sources generalizing c with
  | nil => rfl
  | cons src sources ih => exact ih (c.take src)

theorem takeAll_tally_perm (c : Census) {a b : List Source} (h : a.Perm b) :
    (c.takeAll a).tally = (c.takeAll b).tally := by
  rw [takeAll_tally, takeAll_tally]
  exact h.foldl_eq' (fun _ _ _ _ t => t.plus_right_comm _ _) c.tally

/-- Runs made of the same calls declare the same duck versions and find the same ducks, with the
same scopes unless two contributions of a duck differ in scope. Permuted runs count alike. -/
theorem run_of_same_calls (s : Settings) {a b : List Call} (h : ∀ call, call ∈ a ↔ call ∈ b) :
    ((start s).run a).versions = ((start s).run b).versions ∧
    (∀ v : String, ((start s).run a).findings[v]?.map (List.map Duck.unscoped) =
      ((start s).run b).findings[v]?.map (List.map Duck.unscoped)) ∧
    (s.ScopesAgree (a.flatMap Call.sources) →
      ((start s).run a).findings = ((start s).run b).findings) ∧
    (a.Perm b → ((start s).run a).tally = ((start s).run b).tally) := by
  have hsrc : ∀ src, src ∈ a.flatMap Call.sources ↔ src ∈ b.flatMap Call.sources := by
    simp only [List.mem_flatMap, h, implies_true]
  have hg : ((start s).takeAll (a.flatMap Call.sources)).settings.grants =
      ((start s).takeAll (b.flatMap Call.sources)).settings.grants := by
    rw [takeAll_settings, takeAll_settings]
  rw [run_eq_takeAll, run_eq_takeAll]
  refine ⟨?_, ?_, ?_, ?_⟩
  · refine congrArg ExtTreeSet.toList (ExtTreeSet.ext_mem fun v => ?_)
    simp only [mem_declared_takeAll, hsrc]
  · intro v
    refine findings_unscoped_congr hg fun i => Bool.eq_iff_iff.mpr ?_
    simp only [isSome_firstScope?_takeAll_iff, hsrc]
  · intro ha
    have hb := ha.congr hsrc
    refine findings_congr hg fun v i => Option.ext fun scope => ?_
    rw [firstScope?_takeAll_eq_some_iff, firstScope?_takeAll_eq_some_iff, ha.firstContributes_iff,
      hb.firstContributes_iff]
    simp only [hsrc]
  · intro hp
    exact takeAll_tally_perm _ (hp.flatMap_right Call.sources)

def gooseCalls : List Call :=
  [ .addDefinition ⟨{}, "pond.org", .namespaced, "Goose", [⟨"v1", true⟩]⟩,
    .addReference "v2" { version := "v1" },
    .addReference "v1" { apiVersion := "pond.org/v1", kind := "Goose" } ]

/-- Definition and reference name the same duck with the same scope; the reference between them
fails. -/
theorem run_of_same_calls_reversed :
    ((start { defaultVersions := ["v1"] }).run gooseCalls.reverse).findings =
        ((start { defaultVersions := ["v1"] }).run gooseCalls).findings ∧
      ((start { defaultVersions := ["v1"] }).run gooseCalls.reverse).tally =
        ((start { defaultVersions := ["v1"] }).run gooseCalls).tally := by
  obtain ⟨-, -, hfindings, htally⟩ := run_of_same_calls { defaultVersions := ["v1"] }
    (a := gooseCalls.reverse) (b := gooseCalls) fun _ => List.mem_reverse
  refine ⟨hfindings ?_, htally (List.reverse_perm _)⟩
  have hscope : ∀ src ∈ gooseCalls.reverse.flatMap Call.sources, ∀ v duck,
      Settings.Contributes { defaultVersions := ["v1"] } v duck src → duck.scope = .namespaced := by
    simp only [gooseCalls, List.reverse_cons, List.reverse_nil, List.nil_append, List.cons_append,
      List.flatMap_cons, List.flatMap_nil, Call.sources, List.forall_mem_cons]
    refine ⟨?_, ?_, ?_, by simp⟩
    · intro v duck h
      cases h.2
      rfl
    · intro v duck h
      cases h.2
    · intro v duck h
      obtain rfl := List.mem_singleton.mp h.1
      rfl
  intro x hx y hy v a b ha hb _
  rw [hscope x hx v a ha, hscope y hy v b hb]

end Census
end DuckCensus
