import DuckCensus.Proofs.Grants
import DuckCensus.Proofs.Survey.Reporting

/-! What a policy has to do with a survey. It marks the ducks and decides nothing else. -/
namespace DuckCensus
open Std

def Duck.unmarked (d : Duck) : Identity × Scope := (d.toIdentity, d.scope)

namespace Findings

/-- The same duck versions, and in each the same ducks in the same places, marks apart. -/
def AgreeUnmarked (f f' : Findings) : Prop :=
  ∀ v : String, f[v]?.map (List.map Duck.unmarked) = f'[v]?.map (List.map Duck.unmarked)

/-- Marks are not counted. -/
theorem AgreeUnmarked.kindCount_eq {f f' : Findings} (h : f.AgreeUnmarked f') :
    f.kindCount = f'.kindCount :=
  kindCount_congr (fun _ => rfl) h

end Findings

/-- Marks are set on what is already sorted and without repetition. -/
theorem Duck.map_unmarked_settle (g g' : Grants) (ds : List Duck) :
    (settle g ds).map unmarked = (settle g' ds).map unmarked := by
  rw [settle, settle, List.map_map, List.map_map]
  rfl

/-- What was seen determines the findings but for their marks. -/
theorem Census.findings_agreeUnmarked {c d : Census} (h : c.sightings = d.sightings) :
    c.findings.AgreeUnmarked d.findings := by
  intro v
  rw [getElem?_findings, getElem?_findings, h]
  by_cases hv : seenIn v d.sightings = []
  · rw [if_pos hv, if_pos hv]
  · rw [if_neg hv, if_neg hv]
    exact congrArg some (Duck.map_unmarked_settle _ _ _)

namespace Spec
variable {s : Spec} {ds : List Definition} {catalog : Option Catalog} {role : Option Role}
  {findings : Findings}

/-- The policy has no part in what a source yields. -/
theorem yieldSource_settings (s : Spec) (catalog : Option Catalog) (role role' : Option Role) :
    (s.settings catalog role).withoutRepeats.yieldSource =
      (s.settings catalog role').withoutRepeats.yieldSource := by
  funext src
  cases src with
  | definition d => rfl
  | reference v r => rfl

theorem survey_of_other_role (h : s.survey ds catalog role = .ok findings) (role' : Option Role) :
    ∃ findings', s.survey ds catalog role' = .ok findings' ∧ findings.AgreeUnmarked findings' := by
  obtain ⟨picked, hp, hr, rfl⟩ := survey_eq_ok_iff.mp h
  have hr' : ∀ p ∈ s.references, ∃ duck, (s.settings catalog role').resolve p.2 = .ok duck := by
    rwa [resolve_settings] at hr
  refine ⟨_, survey_eq_ok_iff.mpr ⟨picked, hp, hr', rfl⟩, Census.findings_agreeUnmarked ?_⟩
  have hy : (Census.start (s.settings catalog role)).settings.yieldSource =
      (Census.start (s.settings catalog role')).settings.yieldSource :=
    s.yieldSource_settings catalog role role'
  rw [Census.takeAll_sightings, Census.takeAll_sightings, hy]
  rfl

theorem accessible_of_survey (h : s.survey ds catalog role = .ok findings) {v : String}
    {duck : Duck} (hl : findings.Lists v duck) :
    duck.accessible = (Grants.ofRole role).allows duck.toIdentity := by
  obtain ⟨picked, -, -, rfl⟩ := survey_eq_ok_iff.mp h
  exact (Census.findings_lists_takeAll_iff.mp hl).2

theorem survey_of_lookup {v : String} {ducks : List Duck}
    (h : (s.survey ds catalog role).toOption.bind (·[v]?) = some ducks) :
    ∃ findings, s.survey ds catalog role = .ok findings ∧ findings[v]? = some ducks := by
  cases hs : s.survey ds catalog role with
  | error failure =>
    rw [hs] at h
    cases h
  | ok findings =>
    rw [hs] at h
    exact ⟨findings, rfl, h⟩

theorem survey_under_two_roles (s : Spec) (ds : List Definition) (catalog : Option Catalog)
    (role role' : Option Role) :
    (∃ failure, s.survey ds catalog role = .error failure ∧
      s.survey ds catalog role' = .error failure) ∨
    ∃ findings findings', s.survey ds catalog role = .ok findings ∧
      s.survey ds catalog role' = .ok findings' ∧ findings.AgreeUnmarked findings' := by
  cases h : s.survey ds catalog role with
  | error failure =>
    exact Or.inl ⟨failure, rfl, survey_eq_error_iff.mpr (survey_eq_error_iff.mp h)⟩
  | ok findings =>
    obtain ⟨findings', h', ha⟩ := survey_of_other_role h role'
    exact Or.inr ⟨findings, findings', rfl, h', ha⟩

end Spec

namespace Declaration

theorem observe_under_two_roles (d : Declaration) (ds : List Definition)
    (catalog : Option Catalog) (role role' : Option Role) :
    (d.observe ds catalog role).observedGeneration =
      (d.observe ds catalog role').observedGeneration ∧
    (d.observe ds catalog role).conditions = (d.observe ds catalog role').conditions ∧
    (d.observe ds catalog role).ducks.AgreeUnmarked (d.observe ds catalog role').ducks ∧
    (d.observe ds catalog role).duckCount = (d.observe ds catalog role').duckCount := by
  obtain ⟨failure, h, h'⟩ | ⟨findings, findings', h, h', ha⟩ :=
    d.spec.survey_under_two_roles ds catalog role role'
  · rw [observe_of_error h, observe_of_error h']
    exact ⟨rfl, rfl, fun _ => rfl, rfl⟩
  · rw [observe_of_ok h, observe_of_ok h']
    exact ⟨rfl, rfl, ha, ha.kindCount_eq⟩

/-- Under two policies a survey fails alike or finds the same ducks in the same places, and but for
their marks the status is the same. A mark is false without a policy, depends on the group and the
kind of the duck and on nothing else, and is never taken away by more rules. -/
theorem policy_only_marks (d : Declaration) (ds : List Definition) (catalog : Option Catalog)
    (role role' : Option Role) :
    ((∃ failure, d.spec.survey ds catalog role = .error failure ∧
        d.spec.survey ds catalog role' = .error failure) ∨
      ∃ findings findings', d.spec.survey ds catalog role = .ok findings ∧
        d.spec.survey ds catalog role' = .ok findings' ∧ findings.AgreeUnmarked findings') ∧
    ((d.observe ds catalog role).observedGeneration =
        (d.observe ds catalog role').observedGeneration ∧
      (d.observe ds catalog role).conditions = (d.observe ds catalog role').conditions ∧
      (d.observe ds catalog role).ducks.AgreeUnmarked (d.observe ds catalog role').ducks ∧
      (d.observe ds catalog role).duckCount = (d.observe ds catalog role').duckCount) ∧
    (∀ findings v duck, d.spec.survey ds catalog none = .ok findings →
      findings.Lists v duck → duck.accessible = false) ∧
    (∀ (other : Spec) ds' catalog' findings findings' v w a b,
      d.spec.survey ds catalog role = .ok findings →
      other.survey ds' catalog' role = .ok findings' → findings.Lists v a →
      findings'.Lists w b → a.group = b.group → a.kind = b.kind → a.accessible = b.accessible) ∧
    (role.elim [] Role.rules ⊆ role'.elim [] Role.rules → ∀ findings findings' v w a b,
      d.spec.survey ds catalog role = .ok findings →
      d.spec.survey ds catalog role' = .ok findings' → findings.Lists v a →
      findings'.Lists w b → a.group = b.group → a.kind = b.kind →
      a.accessible → b.accessible) := by
  refine ⟨d.spec.survey_under_two_roles ds catalog role role',
    d.observe_under_two_roles ds catalog role role', ?_, ?_, ?_⟩
  · intro findings v duck h hl
    rw [Spec.accessible_of_survey h hl, Grants.allows_ofRole_none]
  · intro other ds' catalog' findings findings' v w a b h h' ha hb hgroup hkind
    rw [Spec.accessible_of_survey h ha, Spec.accessible_of_survey h' hb]
    exact Grants.allows_congr _ hgroup hkind
  · intro hsub findings findings' v w a b h h' ha hb hgroup hkind haccess
    rw [Spec.accessible_of_survey h ha, Grants.allows_congr _ hgroup hkind] at haccess
    rw [Spec.accessible_of_survey h' hb]
    exact Grants.allows_mono hsub haccess

def gooseherd : Role := ⟨[⟨["get", "list", "watch"], ["pond.org"], ["gooses"]⟩]⟩

def warden : Role := ⟨⟨["*"], [""], ["swans"]⟩ :: gooseherd.rules⟩

def goose (accessible : Bool) : Duck :=
  { apiVersion := "pond.org/v1", kind := "Goose", scope := .namespaced, accessible }

theorem policy_only_marks_goose : ∃ hidden shown shown',
    Spec.gooseSpec.survey [Spec.geese] none none = .ok hidden ∧
    Spec.gooseSpec.survey [Spec.geese] none (some gooseherd) = .ok shown ∧
    Spec.gooseSpec.survey [Spec.geese] none (some warden) = .ok shown' ∧
    hidden.AgreeUnmarked shown ∧ (∀ v duck, hidden.Lists v duck → duck.accessible = false) ∧
    ∀ v duck, shown.Lists v duck ∨ shown'.Lists v duck → duck.group = "pond.org" →
      duck.kind = "Goose" → duck.accessible := by
  obtain ⟨hidden, hnone, -⟩ : ∃ hidden, Spec.gooseSpec.survey [Spec.geese] none none =
      .ok hidden ∧ hidden["v3"]? = some [goose false] :=
    Spec.survey_of_lookup (by decide +kernel)
  obtain ⟨shown, hsome, hv⟩ : ∃ shown, Spec.gooseSpec.survey [Spec.geese] none
      (some gooseherd) = .ok shown ∧ shown["v3"]? = some [goose true] :=
    Spec.survey_of_lookup (by decide +kernel)
  have hl : shown.Lists "v3" (goose true) := ⟨_, hv, List.mem_singleton_self _⟩
  have hgroup : (goose true).group = "pond.org" := by decide +kernel
  obtain ⟨hsurvey, -, hfalse, -, -⟩ :=
    policy_only_marks { spec := Spec.gooseSpec } [Spec.geese] none none (some gooseherd)
  obtain ⟨hmore, -, -, hsame, hmono⟩ :=
    policy_only_marks { spec := Spec.gooseSpec } [Spec.geese] none (some gooseherd) (some warden)
  obtain ⟨_, h, -⟩ | ⟨_, _, h, h', ha⟩ := hsurvey
  · cases hnone.symm.trans h
  cases hnone.symm.trans h
  cases hsome.symm.trans h'
  obtain ⟨_, h, -⟩ | ⟨_, shown', h, hw, -⟩ := hmore
  · cases hsome.symm.trans h
  refine ⟨hidden, shown, shown', hnone, hsome, hw, ha,
    fun v duck hd => hfalse hidden v duck hnone hd, ?_⟩
  intro v duck hd hg hk
  cases hd with
  | inl hd =>
    exact (hsame _ _ _ _ _ _ _ _ _ hsome hsome hl hd (hgroup.trans hg.symm) hk.symm).symm
  | inr hd =>
    exact hmono (List.subset_cons_self _ _) _ _ _ _ _ _ hsome hw hl hd (hgroup.trans hg.symm)
      hk.symm rfl

end Declaration
end DuckCensus
