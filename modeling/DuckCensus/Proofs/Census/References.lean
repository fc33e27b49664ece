import DuckCensus.Proofs.Census.Resolution

/-! When a reference can be added to a census, and what it changes there. -/
namespace DuckCensus
open Std

namespace Settings
variable {s : Settings} {r : Reference}

theorem exists_resolve_iff : (∃ duck, s.resolve r = .ok duck) ↔
    ∃ kind, s.kindOf r = .ok kind ∧ s.catalog.all (·.hasKind r.target kind) := by
  simp only [resolve_eq_ok_iff]
  constructor
  · intro h
    obtain ⟨duck, kind, hk, ha, -⟩ := h
    exact ⟨kind, hk, ha⟩
  · intro h
    obtain ⟨kind, hk, ha⟩ := h
    exact ⟨_, kind, hk, ha, rfl⟩

/-- Without a catalog a kind that is named is trusted. -/
theorem resolve_of_no_catalog (hc : s.catalog = none) :
    ((∃ duck, s.resolve r = .ok duck) ↔ r.kind ≠ "") ∧
    (r.kind = "" → s.resolve r = .error (.kindNotFound r.resource r.target)) := by
  constructor
  · rw [exists_resolve_iff]
    simp [kindOf_eq_ok_iff, hc]
  · intro hk
    exact resolve_eq_error_iff.mpr (Or.inl (kindOf_eq_error_iff.mpr ⟨hk, by simp [hc], rfl⟩))

/-- A kind that is named is looked up as it is. -/
theorem resolve_of_kind {catalog : Catalog} (hc : s.catalog = some catalog) (hk : r.kind ≠ "") :
    ((∃ duck, s.resolve r = .ok duck) ↔ catalog.hasKind r.target r.kind) ∧
    (¬ catalog.hasKind r.target r.kind →
      s.resolve r = .error (.unknownResource r.kind r.target)) := by
  have hkind (kind : String) : s.kindOf r = .ok kind ↔ kind = r.kind := by
    simp [kindOf_eq_ok_iff, hk]
  constructor
  · simp only [exists_resolve_iff, hkind, exists_eq_left, hc, Option.all_some]
  · intro hn
    refine resolve_eq_error_iff.mpr (Or.inr ⟨r.kind, (hkind _).mpr rfl, ?_, rfl⟩)
    rw [hc, Option.all_some]
    exact hn

/-- The kind behind a resource is always known to a closed catalog. -/
theorem resolve_of_resource {catalog : Catalog} (hc : s.catalog = some catalog)
    (hclosed : catalog.Closed) (hk : r.kind = "") :
    ((∃ duck, s.resolve r = .ok duck) ↔ catalog.hasResource r.target r.resource) ∧
    (¬ catalog.hasResource r.target r.resource →
      s.resolve r = .error (.kindNotFound r.resource r.target)) := by
  have hkind (kind : String) :
      s.kindOf r = .ok kind ↔ catalog.kind? r.target r.resource = some kind := by
    simp [kindOf_eq_ok_iff, hk, hc]
  constructor
  · rw [exists_resolve_iff, Catalog.hasResource_iff]
    refine exists_congr fun kind => ?_
    rw [hkind, hc, Option.all_some]
    exact and_iff_left_of_imp hclosed.hasKind_of_kind?
  · intro hn
    refine resolve_eq_error_iff.mpr (Or.inl (kindOf_eq_error_iff.mpr ⟨hk, ?_, rfl⟩))
    intro c he
    cases hc.symm.trans he
    rw [Option.eq_none_iff_forall_ne_some]
    exact fun kind hkind => hn (Catalog.hasResource_iff.mpr ⟨kind, hkind⟩)

end Settings

namespace Census

variable {c : Census} {v : String} {r : Reference}

theorem exists_addReference_iff :
    (∃ c', c.addReference v r = .ok c') ↔ ∃ duck, c.settings.resolve r = .ok duck := by
  simp [addReference_eq_ok_iff]

/-- Without a catalog a reference is added if and only if it names a kind; with one, if the catalog
has the kind or else the resource that it names. A reference that is not added changes nothing for
all that follows, and one that is added is seen in its duck version and changes no other. -/
theorem addReference_outcome (c : Census) (v : String) (r : Reference) :
    (c.settings.catalog = none →
      ((∃ c', c.addReference v r = .ok c') ↔ r.kind ≠ "") ∧
      (r.kind = "" → c.addReference v r = .error (.kindNotFound r.resource r.target))) ∧
    (∀ catalog, c.settings.catalog = some catalog → r.kind ≠ "" →
      ((∃ c', c.addReference v r = .ok c') ↔ catalog.hasKind r.target r.kind) ∧
      (¬ catalog.hasKind r.target r.kind →
        c.addReference v r = .error (.unknownResource r.kind r.target))) ∧
    (∀ listings, c.settings.catalog = some (.ofListings listings) → r.kind = "" →
      ((∃ c', c.addReference v r = .ok c') ↔
        (Catalog.ofListings listings).hasResource r.target r.resource) ∧
      (¬ (Catalog.ofListings listings).hasResource r.target r.resource →
        c.addReference v r = .error (.kindNotFound r.resource r.target))) ∧
    (∀ failure, c.addReference v r = .error failure →
      c.tryReference v r = (c, .error failure) ∧
      c.perform (.addReference v r) = c ∧
      ∀ later, c.run (.addReference v r :: later) = c.run later) ∧
    ∀ c', c.addReference v r = .ok c' →
      c.tryReference v r = (c', .ok ()) ∧
      v ∈ c'.versions ∧
      (∃ duck, c'.findings.Lists v duck ∧ r.PointsTo c.settings.catalog duck.toIdentity) ∧
      (∀ w, w ≠ v → c'.findings[w]? = c.findings[w]?) ∧ c'.tally = c.tally := by
  simp only [exists_addReference_iff, addReference_eq_error_iff]
  refine ⟨Settings.resolve_of_no_catalog, fun _ => Settings.resolve_of_kind,
    fun ls hc => Settings.resolve_of_resource hc (Catalog.closed_ofListings ls), ?_, ?_⟩
  · intro failure h
    have ht := tryReference_of_resolve_error (v := v) h
    have hp : c.perform (.addReference v r) = c := by rw [perform, ht]
    refine ⟨ht, hp, fun later => ?_⟩
    rw [run, List.foldl_cons, hp]
    rfl
  · intro c' h
    obtain ⟨⟨duck, hr⟩, rfl⟩ := addReference_eq_ok_iff.mp h
    have hy := Settings.yieldSource_of_resolve (v := v) hr
    have hs : (c.take (.reference v r)).sightings = c.sightings ++ [⟨v, duck⟩] := by
      rw [take, hy]
      rfl
    refine ⟨tryReference_of_resolve hr, ?_, ?_, fun w => getElem?_findings_of_sighting hs rfl, ?_⟩
    · rw [take, hy]
      simp [versions, add]
    · obtain ⟨found, hl, hi⟩ := exists_findings_lists_iff_exists_sighting.mpr
        ⟨⟨v, duck⟩, by rw [hs]; simp, rfl, rfl⟩
      exact ⟨found, hl, hi ▸ Settings.pointsTo_of_resolve hr⟩
    · rw [take, hy]
      rfl

-- Two kinds are listed behind one resource. The second stays, and the first is still a kind.
def goslings : Census :=
  start
    { catalog := some (.ofListings
        [⟨"pond.org/v1", [⟨"Goose", "geese"⟩, ⟨"Gosling", "geese"⟩, ⟨"Egg", "geese/eggs"⟩]⟩]) }

theorem addReference_outcome_goslings :
    (∃ c', goslings.addReference "v1" ⟨"pond.org", "v1", "", "geese", "", none⟩ = .ok c' ∧
      c'.findings["v2"]? = goslings.findings["v2"]?) ∧
    (∃ c', goslings.addReference "v1" ⟨"", "", "pond.org/v1", "swans", "Goose", none⟩ = .ok c') ∧
    goslings.tryReference "v1" ⟨"pond.org", "v1", "", "geese/eggs", "", none⟩ =
      (goslings, .error (.kindNotFound "geese/eggs" "pond.org/v1")) ∧
    goslings.run [.addReference "v1" ⟨"pond.org", "v1", "", "geese/eggs", "", none⟩] = goslings ∧
    (start {}).addReference "v1" ⟨"pond.org", "v1", "", "geese", "", none⟩ =
      .error (.kindNotFound "geese" "pond.org/v1") := by
  obtain ⟨-, -, hpart, herror, -⟩ :=
    addReference_outcome goslings "v1" ⟨"pond.org", "v1", "", "geese/eggs", "", none⟩
  obtain ⟨htry, -, hrun⟩ := herror _ ((hpart _ rfl rfl).2 (by decide +kernel))
  refine ⟨?_, ?_, htry, hrun [], ?_⟩
  · obtain ⟨-, -, hresource, -, hok⟩ :=
      addReference_outcome goslings "v1" ⟨"pond.org", "v1", "", "geese", "", none⟩
    obtain ⟨c', h⟩ := (hresource _ rfl rfl).1.mpr (by decide +kernel)
    exact ⟨c', h, (hok c' h).2.2.2.1 "v2" (by decide)⟩
  · obtain ⟨-, hkind, -⟩ :=
      addReference_outcome goslings "v1" ⟨"", "", "pond.org/v1", "swans", "Goose", none⟩
    exact (hkind _ rfl (by decide)).1.mpr (by decide +kernel)
  · obtain ⟨hnone, -⟩ :=
      addReference_outcome (start {}) "v1" ⟨"pond.org", "v1", "", "geese", "", none⟩
    exact (hnone rfl).2 rfl

end Census
end DuckCensus
