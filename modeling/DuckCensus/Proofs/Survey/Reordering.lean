import DuckCensus.Proofs.Census.References
import DuckCensus.Proofs.Census.Reordering
import DuckCensus.Proofs.Grants
import DuckCensus.Proofs.Survey.Reporting

/-! A survey in another order: of the definitions, of all that the specification lists, and of the
rules of the policy. -/
namespace DuckCensus
open Std

def Findings.AgreeUnscoped (f f' : Findings) : Prop :=
  ∀ v : String, f[v]?.map (List.map Duck.unscoped) = f'[v]?.map (List.map Duck.unscoped)

theorem Findings.AgreeUnscoped.kindCount_eq {f f' : Findings} (h : f.AgreeUnscoped f') :
    f.kindCount = f'.kindCount :=
  kindCount_congr (fun _ => rfl) h

/-- The reason tells only whether a selector is at fault. -/
theorem Failure.reason_congr {failure failure' : Failure}
    (h : (∃ fault, failure = .invalidSelector fault) ↔
      ∃ fault, failure' = .invalidSelector fault) : failure.reason = failure'.reason := by
  cases failure <;> cases failure' <;> simp_all [reason]

theorem Grants.ofRole_congr {role role' : Option Role}
    (h : Option.Rel (fun r r' => r.rules.Perm r'.rules) role role') :
    ofRole role = ofRole role' := by
  cases h with
  | none => rfl
  | some hp => exact ofRules_congr fun rule => hp.mem_iff

def Source.scope : Source → Scope
  | definition d => d.scope
  | reference _ r => r.scope.getD .assumed

theorem Settings.scope_of_contributes {s : Settings} {src : Source} {v : String} {duck : Duck}
    (h : s.Contributes v duck src) : duck.scope = src.scope := by
  cases src with
  | definition d =>
    obtain ⟨n, -, rfl⟩ := List.mem_map.mp h.1
    rfl
  | reference w r =>
    obtain ⟨kind, -, -, rfl⟩ := resolve_eq_ok_iff.mp h.2
    rfl

namespace Spec

/-- Another order of the selectors, of the duck versions and of the references of each of them. -/
structure Reorders (s s' : Spec) : Prop where
  group : s.group = s'.group
  names : s.names = s'.names
  selectors : s.selectors.Perm s'.selectors
  versions : ∃ vs, List.Forall₂ (fun v w => v.name = w.name ∧ v.refs.Perm w.refs) s.versions vs ∧
    vs.Perm s'.versions

def sources (s : Spec) (picked : List Definition) : List Source :=
  picked.map .definition ++ s.references.map fun p => .reference p.1 p.2

/-- No two contributions to one duck version agree in identity and differ in scope. -/
def ScopesAgree (s : Spec) (ds : List Definition) (catalog : Option Catalog)
    (role : Option Role) : Prop :=
  ∀ picked, s.pick ds = .ok picked → (s.settings catalog role).ScopesAgree (s.sources picked)

/-- Where each name occurs once, all definitions that are asked for are picked. -/
theorem picks_iff_of_nodup {s : Spec} {ds : List Definition} {d : Definition}
    (h : (ds.map Definition.name).Nodup) : s.Picks ds d ↔ d ∈ ds ∧ s.AsksFor d := by
  constructor
  · intro hd
    obtain ⟨before, after, rfl, hasks, -⟩ := hd
    exact ⟨by simp, hasks⟩
  · intro hd
    obtain ⟨hm, hasks⟩ := hd
    obtain ⟨before, after, rfl⟩ := List.append_of_mem hm
    rw [List.map_append, List.map_cons, List.nodup_append] at h
    refine ⟨before, after, rfl, hasks, ?_⟩
    intro e he _
    exact h.2.2 e.name (List.mem_map_of_mem he) d.name List.mem_cons_self

/-- Scopes agree where only one is declared. -/
theorem scopesAgree_of_forall {s : Spec} {ds : List Definition} (scope : Scope)
    (hds : ∀ d ∈ ds, d.scope = scope)
    (hrefs : ∀ p ∈ s.references, p.2.scope.getD .assumed = scope) (catalog : Option Catalog)
    (role : Option Role) : s.ScopesAgree ds catalog role := by
  intro picked hp
  have hscope : ∀ src ∈ s.sources picked, src.scope = scope := by
    intro src hsrc
    cases List.mem_append.mp hsrc with
    | inl hsrc =>
      obtain ⟨d, hd, rfl⟩ := List.mem_map.mp hsrc
      obtain ⟨before, after, rfl, -⟩ := (mem_pick_iff hp d).mp hd
      exact hds d (by simp)
    | inr hsrc =>
      obtain ⟨p, hr, rfl⟩ := List.mem_map.mp hsrc
      exact hrefs p hr
  intro x hx y hy v a b ha hb _
  rw [Settings.scope_of_contributes ha, Settings.scope_of_contributes hb, hscope x hx, hscope y hy]

namespace Reorders
variable {s s' : Spec} (h : s.Reorders s')
include h

/-- What does not depend on the order of the references holds of some duck version in both. -/
theorem exists_version_iff {p : DuckVersion → Prop}
    (hp : ∀ v w, v.name = w.name → v.refs.Perm w.refs → (p v ↔ p w)) :
    (∃ v ∈ s.versions, p v) ↔ ∃ v ∈ s'.versions, p v := by
  obtain ⟨vs, hvs, hperm⟩ := h.versions
  constructor
  · intro hv
    obtain ⟨v, hv, hpv⟩ := hv
    obtain ⟨w, hw, hname, hrefs⟩ := exists_mem_of_forall₂ hvs.flip v hv
    exact ⟨w, hperm.mem_iff.mp hw, (hp v w hname hrefs).mp hpv⟩
  · intro hw
    obtain ⟨w, hw, hpw⟩ := hw
    obtain ⟨v, hv, hname, hrefs⟩ := exists_mem_of_forall₂ hvs w (hperm.mem_iff.mpr hw)
    exact ⟨v, hv, (hp v w hname hrefs).mpr hpw⟩

theorem mem_references_iff (p : String × Reference) : p ∈ s.references ↔ p ∈ s'.references := by
  obtain ⟨v, r⟩ := p
  rw [Spec.mem_references_iff, Spec.mem_references_iff]
  apply h.exists_version_iff
  intro v w hname hrefs
  rw [hname, hrefs.mem_iff]

theorem asksFor_iff (d : Definition) : s.AsksFor d ↔ s'.AsksFor d := by
  simp only [AsksFor, h.selectors.mem_iff]

theorem places_iff (d : Definition) (v version : String) :
    s.Places d v version ↔ s'.Places d v version := by
  have hdefault : (∃ w ∈ s.versions, w.name = v) ↔ ∃ w ∈ s'.versions, w.name = v :=
    h.exists_version_iff fun _ _ hname _ => by rw [hname]
  simp only [Places, LabelSays, AnnotationSays, h.group, h.names, hdefault]

theorem contributes_iff (catalog : Option Catalog) (role role' : Option Role) (src : Source)
    (v : String) (duck : Duck) :
    (s.settings catalog role).Contributes v duck src ↔
      (s'.settings catalog role').Contributes v duck src := by
  cases src with
  | definition d =>
    refine counts_iff.trans (Iff.trans ?_ counts_iff.symm)
    rw [h.places_iff]
  | reference w r => rfl

variable {ds ds' : List Definition} {catalog : Option Catalog} {role role' : Option Role}

theorem exists_survey_error_iff :
    (∃ failure, s.survey ds catalog role = .error failure) ↔
      ∃ failure, s'.survey ds' catalog role' = .error failure := by
  rw [exists_survey_eq_error_iff, exists_survey_eq_error_iff]
  refine or_congr ?_ (h.exists_version_iff ?_)
  · simp only [h.selectors.mem_iff]
  · intro v w _ hrefs
    simp only [hrefs.mem_iff]

theorem reason_eq {failure failure' : Failure} (hs : s.survey ds catalog role = .error failure)
    (hs' : s'.survey ds' catalog role' = .error failure') : failure.reason = failure'.reason := by
  apply Failure.reason_congr
  rw [exists_eq_invalidSelector_iff hs, exists_eq_invalidSelector_iff hs']
  simp only [h.selectors.mem_iff]

variable (hds : ds.Perm ds') (hnames : (ds.map Definition.name).Nodup)
include hds hnames

theorem mem_picked_iff {picked picked' : List Definition} (hp : s.pick ds = .ok picked)
    (hp' : s'.pick ds' = .ok picked') (d : Definition) : d ∈ picked ↔ d ∈ picked' := by
  have hnames' : (ds'.map Definition.name).Nodup := (hds.map _).nodup_iff.mp hnames
  rw [mem_pick_iff hp, mem_pick_iff hp', picks_iff_of_nodup hnames, picks_iff_of_nodup hnames',
    hds.mem_iff, h.asksFor_iff]

theorem mem_sources_iff {picked picked' : List Definition} (hp : s.pick ds = .ok picked)
    (hp' : s'.pick ds' = .ok picked') (src : Source) :
    src ∈ s.sources picked ↔ src ∈ s'.sources picked' := by
  simp only [sources, List.mem_append, List.mem_map, h.mem_picked_iff hds hnames hp hp',
    h.mem_references_iff]

theorem survey_findings (hrole : Grants.ofRole role = Grants.ofRole role')
    {findings findings' : Findings} (hs : s.survey ds catalog role = .ok findings)
    (hs' : s'.survey ds' catalog role' = .ok findings') :
    findings.AgreeUnscoped findings' ∧
      (s.ScopesAgree ds catalog role → findings = findings') := by
  obtain ⟨picked, hp, -, rfl⟩ := survey_eq_ok_iff.mp hs
  obtain ⟨picked', hp', -, rfl⟩ := survey_eq_ok_iff.mp hs'
  have hcontributes := h.contributes_iff catalog role role'
  have hsources := h.mem_sources_iff hds hnames hp hp'
  constructor
  · exact Census.findings_takeAll_unscoped_congr hrole hcontributes hsources
  · intro hscopes
    exact Census.findings_takeAll_eq_of_scopesAgree hrole hcontributes hsources (hscopes picked hp)

end Reorders
end Spec

namespace Declaration

/-- The order of the definitions, of all that the specification lists and of the rules of the role
shows in the scopes of ducks that are contributed with two scopes and in the message of a status
that is not ready, and nowhere else. -/
theorem observe_reordered {d d' : Declaration} {ds ds' : List Definition}
    {role role' : Option Role} (catalog : Option Catalog)
    (hgeneration : d.metadata.generation = d'.metadata.generation)
    (hspec : d.spec.Reorders d'.spec) (hds : ds.Perm ds')
    (hnames : (ds.map Definition.name).Nodup)
    (hrole : Option.Rel (fun r r' => r.rules.Perm r'.rules) role role') :
    ((d.observe ds catalog role).isReady ↔ (d'.observe ds' catalog role').isReady) ∧
    (d.observe ds catalog role).observedGeneration =
      (d'.observe ds' catalog role').observedGeneration ∧
    (d.observe ds catalog role).duckCount = (d'.observe ds' catalog role').duckCount ∧
    (∃ condition message, (d.observe ds catalog role).conditions = [condition] ∧
      (d'.observe ds' catalog role').conditions = [{ condition with message }] ∧
      ((d.observe ds catalog role).isReady → message = condition.message)) ∧
    (d.observe ds catalog role).ducks.AgreeUnscoped (d'.observe ds' catalog role').ducks ∧
    (d.spec.ScopesAgree ds catalog role →
      (d.observe ds catalog role).ducks = (d'.observe ds' catalog role').ducks) := by
  have hfails : (∃ failure, d.spec.survey ds catalog role = .error failure) ↔
      ∃ failure, d'.spec.survey ds' catalog role' = .error failure := hspec.exists_survey_error_iff
  cases h : d.spec.survey ds catalog role with
  | error failure =>
    obtain ⟨failure', h'⟩ := hfails.mp ⟨failure, h⟩
    have hreason : failure.reason = failure'.reason := hspec.reason_eq h h'
    rw [observe_of_error h, observe_of_error h', hgeneration, hreason]
    refine ⟨Iff.rfl, rfl, rfl, ⟨_, failure'.message, rfl, rfl, ?_⟩, fun _ => rfl, fun _ => rfl⟩
    intro hready
    cases hready
  | ok findings =>
    cases h' : d'.spec.survey ds' catalog role' with
    | error failure' =>
      obtain ⟨failure, hfailure⟩ := hfails.mpr ⟨failure', h'⟩
      rw [h] at hfailure
      cases hfailure
    | ok findings' =>
      obtain ⟨hagree, hsame⟩ :=
        hspec.survey_findings hds hnames (Grants.ofRole_congr hrole) h h'
      rw [observe_of_ok h, observe_of_ok h', hgeneration]
      exact ⟨Iff.rfl, rfl, hagree.kindCount_eq, ⟨_, "", rfl, rfl, fun _ => rfl⟩, hagree, hsame⟩

def swan : Reference := { version := "v1", kind := "Swan" }

def eider : Reference := { apiVersion := "sea.org/v1", kind := "Eider" }

def teals : Definition where
  metadata := { name := "teals", labels := some (.ofList [("bird", "yes")]) }
  group := "pond.org"
  scope := .namespaced
  kind := "Teal"
  versions := [⟨"v1", true⟩]

def flock : Declaration where
  metadata := { generation := some 7 }
  spec := { Spec.gooseSpec with
    versions := [⟨"v1", [swan, eider]⟩, ⟨"v2", [eider]⟩], selectors := ["bird=yes", "bird"] }

def flockAgain : Declaration where
  metadata := { generation := some 7 }
  spec := { Spec.gooseSpec with
    versions := [⟨"v2", [eider]⟩, ⟨"v1", [eider, swan]⟩], selectors := ["bird", "bird=yes"] }

def gooseRule : PolicyRule := ⟨["get", "list", "watch"], ["pond.org"], ["gooses"]⟩

def swanRule : PolicyRule := ⟨["*"], [""], ["swans"]⟩

theorem observe_reordered_flock :
    (flock.observe [Spec.geese, teals] none (some ⟨[gooseRule, swanRule]⟩)).duckCount = 4 ∧
      (flockAgain.observe [teals, Spec.geese] none (some ⟨[swanRule, gooseRule]⟩)).duckCount = 4 ∧
      (flock.observe [Spec.geese, teals] none (some ⟨[gooseRule, swanRule]⟩)).ducks =
        (flockAgain.observe [teals, Spec.geese] none (some ⟨[swanRule, gooseRule]⟩)).ducks := by
  have hspec : flock.spec.Reorders flockAgain.spec :=
    { group := rfl
      names := rfl
      selectors := List.Perm.swap _ _ _
      versions := by
        refine ⟨[⟨"v1", [eider, swan]⟩, ⟨"v2", [eider]⟩], ?_, List.Perm.swap _ _ _⟩
        exact .cons ⟨rfl, List.Perm.swap _ _ _⟩ (.cons ⟨rfl, List.Perm.refl _⟩ .nil) }
  have hgeneration : flock.metadata.generation = flockAgain.metadata.generation := rfl
  have hds : [Spec.geese, teals].Perm [teals, Spec.geese] := List.Perm.swap _ _ _
  have hrules : [gooseRule, swanRule].Perm [swanRule, gooseRule] := List.Perm.swap _ _ _
  have hrole : Option.Rel (fun r r' : Role => r.rules.Perm r'.rules)
    (some ⟨[gooseRule, swanRule]⟩) (some ⟨[swanRule, gooseRule]⟩) := .some hrules
  have hnames : ([Spec.geese, teals].map Definition.name).Nodup := by decide +kernel
  obtain ⟨-, -, hcount, -, -, hducks⟩ :=
    observe_reordered none hgeneration hspec hds hnames hrole
  have hfour :
      (flock.observe [Spec.geese, teals] none (some ⟨[gooseRule, swanRule]⟩)).duckCount = 4 := by
    have hpick : flock.spec.pick [Spec.geese, teals] = .ok [Spec.geese, teals] := by decide +kernel
    have hkinds : ∀ p ∈ flock.spec.references, p.2.kind ≠ "" := by decide +kernel
    have hresolve : ∀ p ∈ flock.spec.references, ∃ duck, (flock.spec.settings none
        (some ⟨[gooseRule, swanRule]⟩)).resolve p.2 = .ok duck :=
      fun p hp => (Settings.resolve_of_no_catalog rfl).1.mpr (hkinds p hp)
    rw [observe_of_ok (Spec.survey_eq_ok_iff.mpr ⟨_, hpick, hresolve, rfl⟩),
      Census.kindCount_findings]
    decide +kernel
  refine ⟨hfour, hcount.symm.trans hfour, hducks ?_⟩
  exact Spec.scopesAgree_of_forall .namespaced (by decide) (by decide) none _

/-- The message names the first of two references at fault. -/
example :
    (observe { spec := { Spec.gooseSpec with
      versions := [⟨"v1", [{ resource := "swans" }, { resource := "teals" }]⟩] } }
        [] none none).conditions ≠
      (observe { spec := { Spec.gooseSpec with
        versions := [⟨"v1", [{ resource := "teals" }, { resource := "swans" }]⟩] } }
          [] none none).conditions := by
  decide +kernel

end Declaration
end DuckCensus
