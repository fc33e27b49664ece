import DuckCensus.Catalog

/-! The two directions of a catalog. Listings overwrite one another in each direction by itself, yet
a kind that a resource leads to is always a kind of the same API version. -/
namespace DuckCensus
open Std

def NameTable.Closed (n : NameTable) : Prop :=
  ∀ resource kind : String, n.kinds[resource]? = some kind → kind ∈ n.resources

def Catalog.Closed (c : Catalog) : Prop :=
  ∀ (groupVersion : String) (n : NameTable), c.tables[groupVersion]? = some n → n.Closed

namespace NameTable

theorem closed_empty : ({} : NameTable).Closed := by
  intro resource kind h
  simp at h

theorem Closed.add {n : NameTable} (h : n.Closed) (r : ServedResource) : (n.add r).Closed := by
  rw [NameTable.add]
  by_cases hp : r.isPart
  · rw [if_pos hp]
    exact h
  · rw [if_neg hp]
    intro resource kind hk
    -- the kind just listed is put in, and no kind is ever taken out
    rw [ExtTreeMap.getElem?_insert] at hk
    rw [ExtTreeMap.mem_insert]
    by_cases hr : compare r.name resource = .eq
    · rw [if_pos hr] at hk
      exact Or.inl (LawfulEqCmp.compare_eq_iff_eq.mpr (Option.some_inj.mp hk))
    · rw [if_neg hr] at hk
      exact Or.inr (h resource kind hk)

theorem closed_ofResources (rs : List ServedResource) : (ofResources rs).Closed := by
  have hfold : ∀ n : NameTable, n.Closed → (rs.foldl NameTable.add n).Closed := by
    induction rs with
    | nil => exact fun n h => h
    | cons r rs ih => exact fun n h => ih _ (h.add r)
  exact hfold {} closed_empty

/-- A name is in a direction of a table if and only if the direction leads somewhere from it. -/
theorem any_mem_iff {table : Option NameTable} {direction : NameTable → ExtTreeMap String String}
    {name : String} : table.any (name ∈ direction ·) ↔
      ∃ found, table.bind (fun n => (direction n)[name]?) = some found := by
  cases table with
  | none => simp
  | some n =>
    rw [Option.any_some, decide_eq_true_iff, ExtTreeMap.mem_iff_isSome_getElem?,
      Option.isSome_iff_exists, Option.bind_some]

end NameTable

namespace Catalog

theorem Closed.add {c : Catalog} (h : c.Closed) (l : Listing) : (c.add l).Closed := by
  intro groupVersion n hn
  rw [Catalog.add, ExtTreeMap.getElem?_insert] at hn
  by_cases hl : compare l.groupVersion groupVersion = .eq
  · rw [if_pos hl] at hn
    exact Option.some_inj.mp hn ▸ NameTable.closed_ofResources l.resources
  · rw [if_neg hl] at hn
    exact h groupVersion n hn

theorem closed_ofListings (ls : List Listing) : (ofListings ls).Closed := by
  have hfold : ∀ c : Catalog, c.Closed → (ls.foldl Catalog.add c).Closed := by
    induction ls with
    | nil => exact fun c h => h
    | cons l ls ih => exact fun c h => ih _ (h.add l)
  refine hfold {} ?_
  intro groupVersion n hn
  simp at hn

theorem Closed.hasKind_of_kind? {c : Catalog} (h : c.Closed) {groupVersion resource kind : String}
    (hk : c.kind? groupVersion resource = some kind) : c.hasKind groupVersion kind := by
  obtain ⟨n, hn, hk⟩ := Option.bind_eq_some_iff.mp hk
  rw [hasKind, hn]
  exact decide_eq_true (h groupVersion n hn resource kind hk)

variable {c : Catalog} {groupVersion resource kind : String} {failure : Failure}

theorem kindFor_eq_ok_iff :
    c.kindFor groupVersion resource = .ok kind ↔ c.kind? groupVersion resource = some kind := by
  rw [kindFor]
  cases c.kind? groupVersion resource <;> simp

theorem kindFor_eq_error_iff : c.kindFor groupVersion resource = .error failure ↔
    c.kind? groupVersion resource = none ∧ failure = .kindNotFound resource groupVersion := by
  rw [kindFor]
  cases c.kind? groupVersion resource with
  | none => simp [eq_comm]
  | some kind => simp

theorem kindFor_eq_kindFor_iff {c' : Catalog} :
    c.kindFor groupVersion resource = c'.kindFor groupVersion resource ↔
      c.kind? groupVersion resource = c'.kind? groupVersion resource := by
  rw [kindFor, kindFor]
  cases c.kind? groupVersion resource <;> cases c'.kind? groupVersion resource <;> simp

theorem resourceFor_eq_ok_iff : c.resourceFor groupVersion kind = .ok resource ↔
    c.resource? groupVersion kind = some resource := by
  rw [resourceFor]
  cases c.resource? groupVersion kind <;> simp

theorem resourceFor_eq_error_iff : c.resourceFor groupVersion kind = .error failure ↔
    c.resource? groupVersion kind = none ∧ failure = .resourceNotFound kind groupVersion := by
  rw [resourceFor]
  cases c.resource? groupVersion kind with
  | none => simp [eq_comm]
  | some resource => simp

theorem resourceFor_eq_resourceFor_iff {c' : Catalog} :
    c.resourceFor groupVersion kind = c'.resourceFor groupVersion kind ↔
      c.resource? groupVersion kind = c'.resource? groupVersion kind := by
  rw [resourceFor, resourceFor]
  cases c.resource? groupVersion kind <;> cases c'.resource? groupVersion kind <;> simp

theorem hasResource_iff : c.hasResource groupVersion resource ↔
    ∃ kind, c.kind? groupVersion resource = some kind := NameTable.any_mem_iff

theorem hasKind_iff : c.hasKind groupVersion kind ↔
    ∃ resource, c.resource? groupVersion kind = some resource := NameTable.any_mem_iff

end Catalog
end DuckCensus
