import DuckCensus.Proofs.Survey.Counting
import DuckCensus.Proofs.Survey.Failing
import DuckCensus.Proofs.Survey.Membership

/-! The status of a declared duck type and the survey that it reports. -/
namespace DuckCensus
open Std

theorem Settings.resolve_ne_invalidSelector {s : Settings} {r : Reference}
    {fault : Selector.Fault} : s.resolve r ≠ .error (.invalidSelector fault) := by
  rw [Ne, resolve_eq_error_iff, kindOf_eq_error_iff]
  simp

theorem Failure.reason_eq_invalidSelector_iff {failure : Failure} :
    failure.reason = "InvalidSelector" ↔ ∃ fault, failure = .invalidSelector fault := by
  cases failure <;> simp [reason]

/-- There is one other reason. -/
theorem Failure.reason_eq_resourceRefNotKnown_iff {failure : Failure} :
    failure.reason = "ResourceRefNotKnown" ↔ ¬ ∃ fault, failure = .invalidSelector fault := by
  cases failure <;> simp [reason]

namespace Spec

/-- A survey fails for a selector if and only if some selector cannot be read. -/
theorem exists_eq_invalidSelector_iff {s : Spec} {ds : List Definition} {catalog : Option Catalog}
    {role : Option Role} {failure : Failure} (h : s.survey ds catalog role = .error failure) :
    (∃ fault, failure = .invalidSelector fault) ↔
      ∃ text ∈ s.selectors, ∃ fault, Selector.read text = .error fault := by
  obtain ⟨fault, hf, rfl⟩ | ⟨hs, before, r, after, -, hr, -⟩ := survey_eq_error_iff.mp h
  · exact iff_of_true ⟨fault, rfl⟩ (exists_firstFails_iff.mp ⟨fault, hf⟩)
  · refine iff_of_false ?_ (not_exists_error_iff.mpr hs)
    intro hf
    obtain ⟨fault, rfl⟩ := hf
    exact Settings.resolve_ne_invalidSelector hr

theorem ne_nil_of_survey {s : Spec} {ds : List Definition} {catalog : Option Catalog}
    {role : Option Role} {findings : Findings} (h : s.survey ds catalog role = .ok findings)
    (v : String) (ducks : List Duck) (hd : findings[v]? = some ducks) : ducks ≠ [] := by
  obtain ⟨picked, -, -, rfl⟩ := survey_eq_ok_iff.mp h
  exact Census.findings_ne_nil hd

end Spec

namespace Declaration
variable {d : Declaration} {ds : List Definition} {catalog : Option Catalog} {role : Option Role}

theorem observe_of_ok {findings : Findings} (h : d.spec.survey ds catalog role = .ok findings) :
    d.observe ds catalog role =
      { observedGeneration := d.metadata.generation,
        conditions := [⟨"Ready", "True", "DucksFound", ""⟩], ducks := findings,
        duckCount := findings.kindCount } := by
  rw [observe, h]
  rfl

theorem observe_of_error {failure : Failure} (h : d.spec.survey ds catalog role = .error failure) :
    d.observe ds catalog role =
      { observedGeneration := d.metadata.generation,
        conditions := [⟨"Ready", "False", failure.reason, failure.message⟩] } := by
  rw [observe, h]
  rfl

theorem observe_isReady_iff : (d.observe ds catalog role).isReady ↔
    ∃ findings, d.spec.survey ds catalog role = .ok findings := by
  cases h : d.spec.survey ds catalog role with
  | ok findings =>
    rw [observe_of_ok h]
    exact iff_of_true rfl ⟨findings, rfl⟩
  | error failure =>
    rw [observe_of_error h]
    refine iff_of_false ?_ (by simp)
    simp [Status.isReady, Status.condition?, Condition.readiness, Condition.holding]

variable (d ds catalog role)

/-- The status has one condition, which is ready if and only if the survey succeeds. It then holds
the findings and the number of their kinds, and else no duck but the reason and the message of the
failure. -/
theorem observe_reports_survey :
    (d.observe ds catalog role).observedGeneration = d.metadata.generation ∧
    (∃ condition, (d.observe ds catalog role).conditions = [condition] ∧
      condition.type = "Ready") ∧
    ((d.observe ds catalog role).isReady ↔
      ∃ findings, d.spec.survey ds catalog role = .ok findings) ∧
    (∀ findings, d.spec.survey ds catalog role = .ok findings →
      (d.observe ds catalog role).ducks = findings ∧
      findings.kinds.encard = (d.observe ds catalog role).duckCount ∧
      ((d.observe ds catalog role).duckCount = 0 ↔ (d.observe ds catalog role).ducks = ∅) ∧
      ∃ condition, (d.observe ds catalog role).conditions = [condition] ∧
        condition.reason = "DucksFound" ∧ condition.message = "") ∧
    ∀ failure, d.spec.survey ds catalog role = .error failure →
      (d.observe ds catalog role).ducks = ∅ ∧ (d.observe ds catalog role).duckCount = 0 ∧
      ∃ condition, (d.observe ds catalog role).conditions = [condition] ∧
        condition.message = failure.message ∧
        (condition.reason = "InvalidSelector" ↔
          ∃ text ∈ d.spec.selectors, ∃ fault, Selector.read text = .error fault) ∧
        (condition.reason = "ResourceRefNotKnown" ↔
          ¬ ∃ text ∈ d.spec.selectors, ∃ fault, Selector.read text = .error fault) := by
  refine ⟨?_, ?_, observe_isReady_iff, ?_, ?_⟩
  · cases h : d.spec.survey ds catalog role with
    | ok findings => rw [observe_of_ok h]
    | error failure => rw [observe_of_error h]
  · cases h : d.spec.survey ds catalog role with
    | ok findings => exact ⟨_, congrArg Status.conditions (observe_of_ok h), rfl⟩
    | error failure => exact ⟨_, congrArg Status.conditions (observe_of_error h), rfl⟩
  · intro findings h
    rw [observe_of_ok h]
    exact ⟨rfl, findings.encard_kinds, Findings.kindCount_eq_zero_iff (Spec.ne_nil_of_survey h),
      _, rfl, rfl, rfl⟩
  · intro failure h
    rw [observe_of_error h, ← Spec.exists_eq_invalidSelector_iff h]
    exact ⟨rfl, rfl, _, rfl, rfl, Failure.reason_eq_invalidSelector_iff,
      Failure.reason_eq_resourceRefNotKnown_iff⟩

/-- Two kinds in three duck versions; and a selector that takes them away. -/
theorem observe_reports_survey_gooseSpec :
    (∃ findings, Spec.gooseSpec.survey [Spec.geese] none none = .ok findings ∧
      findings.kinds.encard = 2) ∧
    ∃ condition, (observe { spec := { Spec.gooseSpec with selectors := ["bird", "!bird=yes"] } }
      [Spec.geese] none none).conditions = [condition] ∧ condition.reason = "InvalidSelector" := by
  constructor
  · obtain ⟨-, -, hready, hok, -⟩ :=
      observe_reports_survey { spec := Spec.gooseSpec } [Spec.geese] none none
    obtain ⟨findings, h⟩ := hready.mp (by decide +kernel)
    have hcount : (observe { spec := Spec.gooseSpec } [Spec.geese] none none).duckCount = 2 := by
      decide +kernel
    refine ⟨findings, h, ?_⟩
    rw [(hok findings h).2.1, hcount]
    rfl
  · obtain ⟨-, -, -, -, herror⟩ :=
      observe_reports_survey { spec := { Spec.gooseSpec with selectors := ["bird", "!bird=yes"] } }
        [Spec.geese] none none
    have h : Spec.survey { Spec.gooseSpec with selectors := ["bird", "!bird=yes"] } [Spec.geese]
        none none = .error (.invalidSelector ⟨.unknownOperator, "!bird=yes"⟩) := by
      decide +kernel
    obtain ⟨-, -, condition, hc, -, hreason, -⟩ := herror _ h
    exact ⟨condition, hc, hreason.mpr ⟨"!bird=yes", by simp, ⟨.unknownOperator, "!bird=yes"⟩,
      by decide +kernel⟩⟩

end Declaration
end DuckCensus
