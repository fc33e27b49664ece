import DuckCensus.Proofs.Census.References
import DuckCensus.Proofs.Census.Reordering
import DuckCensus.Proofs.Survey.Failing
import DuckCensus.Proofs.Survey.Membership

/-! What a catalog has to do with a survey. It tells the kinds of references that name none and
refuses kinds that it does not know, and decides nothing else. -/
namespace DuckCensus
open Std

structure Catalog.Within (c c' : Catalog) : Prop where
  hasKind : ∀ groupVersion kind, c.hasKind groupVersion kind → c'.hasKind groupVersion kind
  kindFor : ∀ groupVersion resource kind, c.kindFor groupVersion resource = .ok kind →
    c'.kindFor groupVersion resource = .ok kind

/-- A listing of an API version that was not listed before only adds. -/
theorem Catalog.within_add {c : Catalog} {l : Listing} (h : l.groupVersion ∉ c.tables) :
    c.Within (c.add l) := by
  have htables (groupVersion : String) (n : NameTable)
      (hn : c.tables[groupVersion]? = some n) : (c.add l).tables[groupVersion]? = some n := by
    have hne : l.groupVersion ≠ groupVersion := by
      rintro rfl
      exact h (ExtTreeMap.mem_iff_isSome_getElem?.mpr (by rw [hn]; rfl))
    simpa [add, ExtTreeMap.getElem?_insert, hne] using hn
  constructor
  · intro groupVersion kind hk
    obtain ⟨n, hn, hk⟩ := (Option.any_eq_true _ _).mp hk
    exact (Option.any_eq_true _ _).mpr ⟨n, htables groupVersion n hn, hk⟩
  · intro groupVersion resource kind hk
    rw [kindFor_eq_ok_iff] at hk ⊢
    obtain ⟨n, hn, hk⟩ := Option.bind_eq_some_iff.mp hk
    exact Option.bind_eq_some_iff.mpr ⟨n, htables groupVersion n hn, hk⟩

namespace Settings
variable {c c' : Catalog} {r : Reference} {duck : Duck}

theorem resolve_of_within (h : c.Within c')
    (hr : ({ catalog := some c } : Settings).resolve r = .ok duck) :
    ({ catalog := some c' } : Settings).resolve r = .ok duck := by
  obtain ⟨kind, hk, hknown, rfl⟩ := resolve_eq_ok_iff.mp hr
  refine resolve_eq_ok_iff.mpr ⟨kind, ?_, h.hasKind _ _ hknown, rfl⟩
  obtain hnamed | ⟨he, _, hc, hk⟩ := kindOf_eq_ok_iff.mp hk
  · exact kindOf_eq_ok_iff.mpr (Or.inl hnamed)
  · cases hc
    have hk := h.kindFor _ _ _ (Catalog.kindFor_eq_ok_iff.mpr hk)
    exact kindOf_eq_ok_iff.mpr (Or.inr ⟨he, c', rfl, Catalog.kindFor_eq_ok_iff.mp hk⟩)

/-- A kind that is named is taken over as it is, once it has passed. -/
theorem resolve_without_catalog (hne : r.kind ≠ "")
    (hr : ({ catalog := some c } : Settings).resolve r = .ok duck) :
    ({} : Settings).resolve r = .ok duck := by
  obtain ⟨kind, hk, -, rfl⟩ := resolve_eq_ok_iff.mp hr
  obtain hnamed | ⟨he, -⟩ := kindOf_eq_ok_iff.mp hk
  · exact resolve_eq_ok_iff.mpr ⟨kind, kindOf_eq_ok_iff.mpr (Or.inl hnamed), rfl, rfl⟩
  · exact absurd he hne

end Settings

namespace Spec
variable {s : Spec} {ds : List Definition} {catalog catalog' : Option Catalog}
  {role : Option Role} {findings : Findings}

theorem exists_resolve_of_survey (h : s.survey ds catalog role = .ok findings) :
    ∀ r ∈ s.versions.flatMap (·.refs), ∃ duck, ({ catalog } : Settings).resolve r = .ok duck := by
  obtain ⟨picked, -, hr, -⟩ := survey_eq_ok_iff.mp h
  rw [← references_map_snd]
  exact List.forall_mem_map.mpr hr

/-- A survey reads a catalog through what the references resolve to. -/
theorem survey_of_resolve (h : s.survey ds catalog role = .ok findings)
    (hr : ∀ r ∈ s.versions.flatMap (·.refs), ∀ duck,
      ({ catalog } : Settings).resolve r = .ok duck →
        ({ catalog := catalog' } : Settings).resolve r = .ok duck) :
    s.survey ds catalog' role = .ok findings := by
  obtain ⟨picked, hp, hok, rfl⟩ := survey_eq_ok_iff.mp h
  rw [← references_map_snd, List.forall_mem_map] at hr
  refine survey_eq_ok_iff.mpr ⟨picked, hp, ?_, Census.findings_takeAll_eq_of_yields rfl ?_⟩
  · intro p hm
    obtain ⟨duck, hd⟩ := hok p hm
    exact ⟨duck, hr p hm duck hd⟩
  · intro src hs
    cases List.mem_append.mp hs with
    | inl hs =>
      obtain ⟨d, -, rfl⟩ := List.mem_map.mp hs
      rfl
    | inr hs =>
      obtain ⟨p, hm, rfl⟩ := List.mem_map.mp hs
      obtain ⟨duck, hd⟩ := hok p hm
      exact (Settings.yieldSource_of_resolve hd).trans
        (Settings.yieldSource_of_resolve (hr p hm duck hd)).symm

theorem survey_within {c c' : Catalog} (hc : c.Within c')
    (h : s.survey ds (some c) role = .ok findings) :
    s.survey ds (some c') role = .ok findings :=
  survey_of_resolve h fun _ _ _ hr => Settings.resolve_of_within hc hr

theorem survey_without_catalog {c : Catalog} (hk : ∀ r ∈ s.versions.flatMap (·.refs), r.kind ≠ "")
    (h : s.survey ds (some c) role = .ok findings) : s.survey ds none role = .ok findings :=
  survey_of_resolve h fun r hm _ hr => Settings.resolve_without_catalog (hk r hm) hr

/-- Without a catalog only references that name a kind resolve. -/
theorem names_kinds_of_survey (h : s.survey ds none role = .ok findings) :
    ∀ r ∈ s.versions.flatMap (·.refs), r.kind ≠ "" := fun r hr =>
  (Settings.resolve_of_no_catalog rfl).1.mp (exists_resolve_of_survey h r hr)

/-- A catalog refuses the kind of a reference and nothing else of a survey that succeeds without. -/
theorem survey_with_catalog (c : Catalog) (h : s.survey ds none role = .ok findings) :
    s.survey ds (some c) role = .ok findings ∨
      ∃ r ∈ s.versions.flatMap (·.refs),
        s.survey ds (some c) role = .error (.unknownResource r.kind r.target) := by
  have hk := names_kinds_of_survey h
  cases hs : s.survey ds (some c) role with
  | ok findings' => exact Or.inl ((survey_without_catalog hk hs).symm.trans h)
  | error failure =>
    obtain hfault | ⟨-, before, r, after, hsplit, hfail, -⟩ := survey_eq_error_iff.mp hs
    · rw [survey_eq_error_iff.mpr (Or.inl hfault)] at h
      cases h
    · have hm : r ∈ s.versions.flatMap (·.refs) := by simp [hsplit]
      obtain ⟨hok, herror⟩ := Settings.resolve_of_kind (s := { catalog := some c }) rfl (hk r hm)
      by_cases hknown : c.hasKind r.target r.kind
      · obtain ⟨duck, hd⟩ := hok.mpr hknown
        rw [hd] at hfail
        cases hfail
      · rw [herror hknown] at hfail
        cases hfail
        exact Or.inr ⟨r, hm, rfl⟩

/-- What a survey finds with a catalog it finds with any that knows more, and without one if every
reference names its kind. What it finds without a catalog it finds with any, unless the catalog
does not know the kind of some reference. -/
theorem survey_under_catalogs (s : Spec) (ds : List Definition) (role : Option Role)
    (findings : Findings) :
    (∀ c c' : Catalog, c.Within c' → s.survey ds (some c) role = .ok findings →
      s.survey ds (some c') role = .ok findings) ∧
    (∀ c, (∀ r ∈ s.versions.flatMap (·.refs), r.kind ≠ "") →
      s.survey ds (some c) role = .ok findings → s.survey ds none role = .ok findings) ∧
    (s.survey ds none role = .ok findings → ∀ c, s.survey ds (some c) role = .ok findings ∨
      ∃ r ∈ s.versions.flatMap (·.refs),
        s.survey ds (some c) role = .error (.unknownResource r.kind r.target)) :=
  ⟨fun _ _ => survey_within, fun _ => survey_without_catalog, fun h c => survey_with_catalog c h⟩

def swans : Listing := ⟨"v1", [⟨"Swan", "swans"⟩]⟩

def eggs : Listing := ⟨"pond.org/v1", [⟨"Egg", "eggs"⟩]⟩

/-- The survey refers to the swan, so it succeeds where swans are listed and where nothing is
checked, but not with a catalog of eggs. -/
theorem survey_under_catalogs_swans : ∃ findings,
    gooseSpec.survey [geese] (some (.ofListings [swans])) none = .ok findings ∧
    gooseSpec.survey [geese] (some ((Catalog.ofListings [swans]).add eggs)) none = .ok findings ∧
    gooseSpec.survey [geese] none none = .ok findings ∧
    ∃ r ∈ gooseSpec.versions.flatMap (·.refs),
      gooseSpec.survey [geese] (some (.ofListings [eggs])) none =
        .error (.unknownResource r.kind r.target) := by
  have hok : (gooseSpec.survey [geese] (some (.ofListings [swans])) none).isOk := by
    decide +kernel
  have hfails : ¬ (gooseSpec.survey [geese] (some (.ofListings [eggs])) none).isOk := by
    decide +kernel
  obtain ⟨findings, h⟩ := isOk_iff.mp hok
  obtain ⟨hmore, hnone, hsome⟩ := survey_under_catalogs gooseSpec [geese] none findings
  have hfree := hnone _ (by decide) h
  refine ⟨findings, h, hmore _ _ (Catalog.within_add (by decide +kernel)) h, hfree, ?_⟩
  exact (hsome hfree (.ofListings [eggs])).resolve_left fun heggs =>
    hfails (isOk_iff.mpr ⟨findings, heggs⟩)

end Spec
end DuckCensus
