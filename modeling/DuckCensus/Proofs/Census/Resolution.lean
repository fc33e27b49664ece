import DuckCensus.Proofs.Catalog
import DuckCensus.Proofs.Census.Runs
import DuckCensus.Proofs.Steps

/-! What a reference resolves to. -/
namespace DuckCensus
open Std

/-- The API version is that in one text or, if it is empty, the one in two, of which the core group
has no first. The kind is the one named or, if none is, the kind behind the resource. -/
def Reference.PointsTo (catalog : Option Catalog) (r : Reference) (i : Identity) : Prop :=
  (i.apiVersion =
    if r.apiVersion ≠ "" then r.apiVersion
    else if r.group = "" then r.version
    else r.group ++ "/" ++ r.version) ∧
  (r.kind ≠ "" ∧ i.kind = r.kind ∨
    r.kind = "" ∧ ∃ c, catalog = some c ∧ c.kind? i.apiVersion r.resource = some i.kind)

theorem Reference.target_eq (r : Reference) : r.target =
    if r.apiVersion ≠ "" then r.apiVersion
    else if r.group = "" then r.version
    else r.group ++ "/" ++ r.version := by
  rw [target, GroupVersion.text, ite_not]

theorem Reference.pointsTo_iff {catalog : Option Catalog} {r : Reference} {i : Identity} :
    r.PointsTo catalog i ↔ i.apiVersion = r.target ∧
      (r.kind ≠ "" ∧ i.kind = r.kind ∨
        r.kind = "" ∧ ∃ c, catalog = some c ∧ c.kind? r.target r.resource = some i.kind) := by
  rw [PointsTo, ← target_eq]
  refine and_congr_right fun h => ?_
  rw [h]

theorem Reference.PointsTo.unique {catalog : Option Catalog} {r : Reference} {i j : Identity}
    (hi : r.PointsTo catalog i) (hj : r.PointsTo catalog j) : i = j := by
  obtain ⟨hia, hik⟩ := pointsTo_iff.mp hi
  obtain ⟨hja, hjk⟩ := pointsTo_iff.mp hj
  have hk : i.kind = j.kind := by
    obtain ⟨hne, hik⟩ | ⟨he, c, hc, hik⟩ := hik
    · obtain ⟨-, hjk⟩ | ⟨he, -⟩ := hjk
      · rw [hik, hjk]
      · exact absurd he hne
    · obtain ⟨hne, -⟩ | ⟨-, c', hc', hjk⟩ := hjk
      · exact absurd he hne
      · cases hc.symm.trans hc'
        exact Option.some_inj.mp (hik.symm.trans hjk)
  cases i
  cases j
  simp_all

namespace Settings

theorem kindOf_eq_ok_iff {s : Settings} {r : Reference} {kind : String} :
    s.kindOf r = .ok kind ↔ r.kind ≠ "" ∧ kind = r.kind ∨
      r.kind = "" ∧ ∃ c, s.catalog = some c ∧ c.kind? r.target r.resource = some kind := by
  rw [kindOf]
  by_cases hk : r.kind = ""
  · cases s.catalog with
    | none => simp [hk]
    | some c => simp [hk, Catalog.kindFor_eq_ok_iff]
  · simp [hk, eq_comm]

theorem resolve_eq_ok_iff {s : Settings} {r : Reference} {duck : Duck} :
    s.resolve r = .ok duck ↔
      ∃ kind, s.kindOf r = .ok kind ∧ s.catalog.all (·.hasKind r.target kind) ∧
        duck = { apiVersion := r.target, kind, scope := r.scope.getD .assumed } := by
  rw [resolve, bind_eq_ok_iff]
  refine exists_congr fun kind => and_congr_right fun _ => ?_
  by_cases h : s.catalog.all (·.hasKind r.target kind)
  · rw [if_pos h]
    exact ⟨fun he => by cases he; exact ⟨h, rfl⟩, fun he => by rw [he.2]; rfl⟩
  · rw [if_neg h]
    exact iff_of_false (fun he => by cases he) fun he => h he.1

theorem kindOf_eq_error_iff {s : Settings} {r : Reference} {failure : Failure} :
    s.kindOf r = .error failure ↔
      r.kind = "" ∧ (∀ c, s.catalog = some c → c.kind? r.target r.resource = none) ∧
        failure = .kindNotFound r.resource r.target := by
  unfold kindOf
  by_cases hk : r.kind = ""
  · cases s.catalog with
    | none => simp [hk, eq_comm]
    | some c => simp [hk, Catalog.kindFor_eq_error_iff]
  · simp [hk]

theorem resolve_eq_error_iff {s : Settings} {r : Reference} {failure : Failure} :
    s.resolve r = .error failure ↔ s.kindOf r = .error failure ∨
      ∃ kind, s.kindOf r = .ok kind ∧ ¬ s.catalog.all (·.hasKind r.target kind) ∧
        failure = .unknownResource kind r.target := by
  rw [resolve, bind_eq_error_iff]
  refine or_congr_right (exists_congr fun kind => and_congr_right fun _ => ?_)
  by_cases h : s.catalog.all (·.hasKind r.target kind)
  · rw [if_pos h]
    exact iff_of_false (fun he => by cases he) fun he => he.1 h
  · rw [if_neg h]
    exact ⟨fun he => by cases he; exact ⟨h, rfl⟩, fun he => by rw [he.2]; rfl⟩

theorem pointsTo_of_resolve {s : Settings} {r : Reference} {duck : Duck}
    (h : s.resolve r = .ok duck) : r.PointsTo s.catalog duck.toIdentity := by
  obtain ⟨kind, hk, -, rfl⟩ := resolve_eq_ok_iff.mp h
  exact Reference.pointsTo_iff.mpr ⟨rfl, kindOf_eq_ok_iff.mp hk⟩

theorem yieldSource_of_resolve {s : Settings} {v : String} {r : Reference} {duck : Duck}
    (h : s.resolve r = .ok duck) :
    s.yieldSource (.reference v r) = { declared := [v], sightings := [⟨v, duck⟩] } := by
  simp [yieldSource, yieldReference, h, Except.map]

end Settings

namespace Census

section
variable {c : Census} {v : String} {r : Reference}

/-- A reference that does not resolve leaves the census as it is. -/
theorem tryReference_of_resolve_error {failure : Failure}
    (h : c.settings.resolve r = .error failure) : c.tryReference v r = (c, .error failure) := by
  rw [tryReference, Settings.yieldReference, h]
  rfl

theorem tryReference_of_resolve {duck : Duck} (h : c.settings.resolve r = .ok duck) :
    c.tryReference v r = (c.take (.reference v r), .ok ()) := by
  rw [tryReference, take, Settings.yieldSource_of_resolve h, Settings.yieldReference, h]
  rfl

theorem addReference_eq_ok_iff {c' : Census} : c.addReference v r = .ok c' ↔
    (∃ duck, c.settings.resolve r = .ok duck) ∧ c' = c.take (.reference v r) := by
  rw [addReference]
  cases hr : c.settings.resolve r with
  | error failure => simp [tryReference_of_resolve_error hr]
  | ok duck => simp [tryReference_of_resolve hr, eq_comm]

theorem addReference_eq_error_iff {failure : Failure} :
    c.addReference v r = .error failure ↔ c.settings.resolve r = .error failure := by
  rw [addReference]
  cases hr : c.settings.resolve r with
  | error failure => simp [tryReference_of_resolve_error hr]
  | ok duck => simp [tryReference_of_resolve hr]

end

/-- References are all added or the first that fails ends the run. -/
theorem foldlM_addReference_eq_ok_iff {c c' : Census} {refs : List (String × Reference)} :
    refs.foldlM (fun c (v, r) => c.addReference v r) c = .ok c' ↔
      (∀ p ∈ refs, ∃ duck, c.settings.resolve p.2 = .ok duck) ∧
        c' = c.takeAll (refs.map fun p => .reference p.1 p.2) := by
  induction refs generalizing c with
  | nil =>
    rw [List.foldlM_nil]
    exact ⟨fun h => by cases h; exact ⟨by simp, rfl⟩, fun h => by rw [h.2]; rfl⟩
  | cons p refs ih =>
    rw [List.foldlM_cons, bind_eq_ok_iff, List.forall_mem_cons]
    constructor
    · intro h
      obtain ⟨c₁, ha, h⟩ := h
      obtain ⟨hd, rfl⟩ := addReference_eq_ok_iff.mp ha
      obtain ⟨hr, rfl⟩ := ih.mp h
      exact ⟨⟨hd, hr⟩, rfl⟩
    · intro h
      obtain ⟨⟨hd, hr⟩, rfl⟩ := h
      exact ⟨_, addReference_eq_ok_iff.mpr ⟨hd, rfl⟩, ih.mpr ⟨hr, rfl⟩⟩

/-- The first reference that does not resolve ends the run. -/
theorem foldlM_addReference_eq_error_iff {c : Census} {refs : List (String × Reference)}
    {failure : Failure} :
    refs.foldlM (fun c (v, r) => c.addReference v r) c = .error failure ↔
      FirstFails c.settings.resolve (refs.map (·.2)) failure := by
  induction refs generalizing c with
  | nil =>
    rw [List.foldlM_nil]
    exact iff_of_false (fun h => by cases h) not_firstFails_nil
  | cons p refs ih =>
    rw [List.foldlM_cons, List.map_cons, firstFails_cons_iff, bind_eq_error_iff,
      addReference_eq_error_iff]
    refine or_congr_right ?_
    constructor
    · intro h
      obtain ⟨c₁, ha, h⟩ := h
      obtain ⟨hd, rfl⟩ := addReference_eq_ok_iff.mp ha
      exact ⟨hd, (ih (c := c.take _)).mp h⟩
    · intro h
      obtain ⟨hd, h⟩ := h
      exact ⟨_, addReference_eq_ok_iff.mpr ⟨hd, rfl⟩, (ih (c := c.take _)).mpr h⟩

end Census
end DuckCensus
