import DuckCensus.Proofs.Census.Resolution
import DuckCensus.Proofs.Survey.Picking

/-! When a survey fails and for what. Neither the definitions nor the policy have a part in it. -/
namespace DuckCensus
open Std

namespace Spec

theorem readSelectors_eq_error_iff {s : Spec} {failure : Failure} :
    s.readSelectors = .error failure ↔
      ∃ fault, FirstFails Selector.read s.selectors fault ∧ failure = .invalidSelector fault := by
  rw [readSelectors, mapError_eq_error_iff]
  exact exists_congr fun fault => and_congr mapM_eq_error_iff eq_comm

theorem exists_readSelectors_iff {s : Spec} :
    (∃ selectors, s.readSelectors = .ok selectors) ↔
      ∀ text ∈ s.selectors, ∃ selector, Selector.read text = .ok selector := by
  rw [← not_exists_error_iff, ← exists_firstFails_iff]
  simp only [← mapM_eq_error_iff, readSelectors, mapError_eq_ok_iff]
  cases s.selectors.mapM Selector.read with
  | error fault => simp
  | ok selectors => simp

/-- Neither filters nor policy have a part in resolving a reference. -/
theorem resolve_settings (s : Spec) (catalog : Option Catalog) (role : Option Role) :
    (s.settings catalog role).resolve = ({ catalog } : Settings).resolve := rfl

theorem references_map_snd (s : Spec) :
    s.references.map (·.2) = s.versions.flatMap (·.refs) := by
  simp [references, List.map_flatMap, Function.comp_def]

theorem survey_eq_error_iff {s : Spec} {ds : List Definition} {catalog : Option Catalog}
    {role : Option Role} {failure : Failure} :
    s.survey ds catalog role = .error failure ↔
      (∃ fault, FirstFails Selector.read s.selectors fault ∧ failure = .invalidSelector fault) ∨
      (∀ text ∈ s.selectors, ∃ selector, Selector.read text = .ok selector) ∧
        FirstFails ({ catalog } : Settings).resolve (s.versions.flatMap (·.refs)) failure := by
  have hresolve (picked : List Definition) :
      ((Census.start (s.settings catalog role)).addDefinitions picked).settings.resolve =
        ({ catalog } : Settings).resolve := by
    rw [Census.addDefinitions_eq_takeAll, Census.takeAll_settings]
    rfl
  rw [← readSelectors_eq_error_iff, ← exists_readSelectors_iff, survey, bind_eq_error_iff, pick,
    pickBy, map_eq_error_iff]
  refine or_congr_right ?_
  constructor
  · intro h
    obtain ⟨picked, hp, h⟩ := h
    obtain ⟨selectors, hs, -⟩ := map_eq_ok_iff.mp hp
    obtain h | ⟨c, -, h⟩ := bind_eq_error_iff.mp h
    · have hf := Census.foldlM_addReference_eq_error_iff.mp h
      rw [hresolve, references_map_snd] at hf
      exact ⟨⟨selectors, hs⟩, hf⟩
    · cases h
  · intro h
    obtain ⟨⟨selectors, hs⟩, h⟩ := h
    refine ⟨_, map_eq_ok_iff.mpr ⟨selectors, hs, rfl⟩, bind_eq_error_iff.mpr (Or.inl ?_)⟩
    rw [Census.foldlM_addReference_eq_error_iff, hresolve, references_map_snd]
    exact h

theorem exists_survey_eq_error_iff {s : Spec} {ds : List Definition} {catalog : Option Catalog}
    {role : Option Role} :
    (∃ failure, s.survey ds catalog role = .error failure) ↔
      (∃ text ∈ s.selectors, ∃ fault, Selector.read text = .error fault) ∨
        ∃ version ∈ s.versions, ∃ r ∈ version.refs, ∃ failure,
          ({ catalog } : Settings).resolve r = .error failure := by
  rw [← exists_firstFails_flatMap_iff, ← exists_firstFails_iff]
  simp only [survey_eq_error_iff, ← not_exists_error_iff, ← exists_firstFails_iff]
  constructor
  · intro h
    obtain ⟨failure, ⟨fault, hf, -⟩ | ⟨-, hr⟩⟩ := h
    · exact Or.inl ⟨fault, hf⟩
    · exact Or.inr ⟨failure, hr⟩
  · intro h
    by_cases hf : ∃ fault, FirstFails Selector.read s.selectors fault
    · obtain ⟨fault, hf⟩ := hf
      exact ⟨_, Or.inl ⟨fault, hf, rfl⟩⟩
    · obtain ⟨failure, hr⟩ := h.resolve_left hf
      exact ⟨failure, Or.inr ⟨hf, hr⟩⟩

/-- A survey fails for the first selector that cannot be read or, if all can be, for the first
reference that does not resolve, and so whatever the definitions and the policy are. -/
theorem survey_failure (s : Spec) (catalog : Option Catalog) :
    (∀ ds role, (∃ failure, s.survey ds catalog role = .error failure) ↔
      (∃ text ∈ s.selectors, ∃ fault, Selector.read text = .error fault) ∨
        ∃ version ∈ s.versions, ∃ r ∈ version.refs, ∃ failure,
          ({ catalog } : Settings).resolve r = .error failure) ∧
    (∀ ds role failure, s.survey ds catalog role = .error failure ↔
      (∃ fault, FirstFails Selector.read s.selectors fault ∧ failure = .invalidSelector fault) ∨
      (∀ text ∈ s.selectors, ∃ selector, Selector.read text = .ok selector) ∧
        FirstFails ({ catalog } : Settings).resolve (s.versions.flatMap (·.refs)) failure) ∧
    ∀ ds ds' role role',
      (∃ failure, s.survey ds catalog role = .error failure ∧
        s.survey ds' catalog role' = .error failure) ∨
      ∃ findings findings', s.survey ds catalog role = .ok findings ∧
        s.survey ds' catalog role' = .ok findings' := by
  refine ⟨fun ds role => exists_survey_eq_error_iff, fun ds role failure => survey_eq_error_iff, ?_⟩
  intro ds ds' role role'
  cases h : s.survey ds catalog role with
  | error failure =>
    exact Or.inl ⟨failure, rfl, survey_eq_error_iff.mpr (survey_eq_error_iff.mp h)⟩
  | ok findings =>
    refine Or.inr ?_
    cases h' : s.survey ds' catalog role' with
    | error failure =>
      have he : s.survey ds catalog role = .error failure :=
        survey_eq_error_iff.mpr (survey_eq_error_iff.mp h')
      rw [h] at he
      cases he
    | ok findings' => exact ⟨findings, findings', rfl, rfl⟩

/-- The second selector decides, whatever the reference points to. -/
example : Spec.survey ⟨"pond.org", ⟨"Goose", "geese", ""⟩, [⟨"v1", [{ version := "v1" }]⟩],
    ["bird", "!bird=yes"]⟩ [] none none =
      .error (.invalidSelector ⟨.unknownOperator, "!bird=yes"⟩) := by
  decide +kernel

end Spec
end DuckCensus
