import DuckCensus.Proofs.Catalog
import Mathlib.Data.Finset.Card
import Mathlib.Data.List.Induction

/-! What a catalog answers, told by the listings that it was made of. Of the listings of one API
version only the last counts, and in it, for each direction by itself, only the last entry of a
name that is no part. -/
namespace DuckCensus
open Std

namespace Listing

/-- What the listings come to at an API version: the resources of the last one, but not those with
a slash in the name, which are parts of others. -/
def effective (ls : List Listing) (groupVersion : String) : List ServedResource :=
  ((ls.findRev? (·.groupVersion = groupVersion)).elim [] (·.resources)).filter
    ('/' ∉ ·.name.toList)

def withoutParts (l : Listing) : Listing :=
  { l with resources := l.resources.filter ('/' ∉ ·.name.toList) }

theorem filter_not_isPart (rs : List ServedResource) :
    rs.filter (!·.isPart) = rs.filter ('/' ∉ ·.name.toList) := by
  refine List.filter_congr fun r _ => ?_
  rw [ServedResource.isPart, decide_not]

def unreplaced : List Listing → List Listing
  | [] => []
  | l :: ls =>
    if ls.any (·.groupVersion = l.groupVersion) then unreplaced ls else l :: unreplaced ls

theorem unreplaced_sublist (ls : List Listing) : (unreplaced ls).Sublist ls := by
  fun_induction unreplaced ls with
  | case1 => exact List.Sublist.slnil
  | case2 l ls h ih => exact ih.cons l
  | case3 l ls h ih => exact ih.cons_cons l

theorem nodup_unreplaced (ls : List Listing) :
    ((unreplaced ls).map (·.groupVersion)).Nodup := by
  fun_induction unreplaced ls with
  | case1 => exact List.nodup_nil
  | case2 l ls h ih => exact ih
  | case3 l ls h ih =>
    refine List.nodup_cons.mpr ⟨fun hm => h ?_, ih⟩
    obtain ⟨later, hlater, hl⟩ := List.mem_map.mp hm
    exact List.any_eq_true.mpr
      ⟨later, (unreplaced_sublist ls).subset hlater, decide_eq_true hl⟩

end Listing

/-- In a table that is filled item by item the last item of each key stays. -/
theorem getElem?_foldl_insert {α β : Type} (key : α → String) (value : α → β) (xs : List α)
    (k : String) :
    (xs.foldl (fun m x => m.insert (key x) (value x)) (∅ : ExtTreeMap String β))[k]? =
      (xs.findRev? (key · = k)).map value := by
  induction xs using List.reverseRecOn with
  | nil => simp
  | append_singleton xs x ih =>
    rw [List.foldl_append, List.foldl_cons, List.foldl_nil, ExtTreeMap.getElem?_insert, ih]
    by_cases h : key x = k
    · simp [h]
    · simp [h]

/-- Some item is the last that has a property if and only if one has it. -/
theorem exists_findRev?_iff {α : Type} {p : α → Bool} {xs : List α} :
    (∃ x, xs.findRev? p = some x) ↔ ∃ x ∈ xs, p x := by
  rw [← Option.isSome_iff_exists, List.findRev?_eq_find?_reverse, List.find?_isSome]
  simp only [List.mem_reverse]

namespace NameTable

/-- A direction into which all resources but parts are put holds the last one of each key. -/
theorem getElem?_ofResources {direction : NameTable → ExtTreeMap String String}
    {key value : ServedResource → String} (hempty : direction {} = ∅)
    (hadd : ∀ n r, direction (n.add r) =
      if r.isPart then direction n else (direction n).insert (key r) (value r))
    (rs : List ServedResource) (k : String) : (direction (ofResources rs))[k]? =
      ((rs.filter (!·.isPart)).findRev? (key · = k)).map value := by
  have hfold : direction (ofResources rs) =
      (rs.filter (!·.isPart)).foldl (fun m r => m.insert (key r) (value r)) ∅ := by
    rw [List.foldl_filter, ← hempty, ofResources]
    refine (List.foldl_hom direction fun n r => ?_).symm
    rw [hadd]
    by_cases h : r.isPart <;> simp [h]
  rw [hfold, getElem?_foldl_insert]

theorem getElem?_kinds_ofResources (rs : List ServedResource) (resource : String) :
    (ofResources rs).kinds[resource]? =
      ((rs.filter (!·.isPart)).findRev? (·.name = resource)).map (·.kind) :=
  getElem?_ofResources rfl (fun _ _ => apply_ite NameTable.kinds _ _ _) rs resource

theorem getElem?_resources_ofResources (rs : List ServedResource) (kind : String) :
    (ofResources rs).resources[kind]? =
      ((rs.filter (!·.isPart)).findRev? (·.kind = kind)).map (·.name) :=
  getElem?_ofResources rfl (fun _ _ => apply_ite NameTable.resources _ _ _) rs kind

theorem ofResources_filter (rs : List ServedResource) :
    ofResources (rs.filter (!·.isPart)) = ofResources rs := by
  rw [ofResources, ofResources, List.foldl_filter]
  congr 1
  funext n r
  rw [add]
  by_cases h : r.isPart <;> simp [h]

theorem ext_lookups {n n' : NameTable}
    (hkinds : ∀ resource : String, n.kinds[resource]? = n'.kinds[resource]?)
    (hresources : ∀ kind : String, n.resources[kind]? = n'.resources[kind]?) : n = n' := by
  have hk : n.kinds = n'.kinds := ExtTreeMap.ext_getElem? hkinds
  have hr : n.resources = n'.resources := ExtTreeMap.ext_getElem? hresources
  cases n
  cases n'
  simp_all

end NameTable

namespace Catalog
variable {ls : List Listing} {groupVersion kind resource : String}

theorem tables_ofListings (ls : List Listing) : (ofListings ls).tables =
    ls.foldl (fun m l => m.insert l.groupVersion (.ofResources l.resources)) ∅ :=
  (List.foldl_hom Catalog.tables fun _ _ => rfl).symm

theorem getElem?_tables_ofListings (ls : List Listing) (groupVersion : String) :
    (ofListings ls).tables[groupVersion]? =
      (ls.findRev? (·.groupVersion = groupVersion)).map (.ofResources ·.resources) := by
  rw [tables_ofListings, getElem?_foldl_insert]

theorem mem_tables_ofListings :
    groupVersion ∈ (ofListings ls).tables ↔ ∃ l ∈ ls, l.groupVersion = groupVersion := by
  rw [ExtTreeMap.mem_iff_isSome_getElem?, getElem?_tables_ofListings, Option.isSome_map,
    Option.isSome_iff_exists, exists_findRev?_iff]
  simp only [decide_eq_true_eq]

theorem kind?_ofListings (ls : List Listing) (groupVersion resource : String) :
    (ofListings ls).kind? groupVersion resource =
      ((Listing.effective ls groupVersion).findRev? (·.name = resource)).map (·.kind) := by
  rw [kind?, getElem?_tables_ofListings, Listing.effective, ← Listing.filter_not_isPart]
  cases ls.findRev? (·.groupVersion = groupVersion) with
  | none => rfl
  | some l => exact NameTable.getElem?_kinds_ofResources l.resources resource

theorem resource?_ofListings (ls : List Listing) (groupVersion kind : String) :
    (ofListings ls).resource? groupVersion kind =
      ((Listing.effective ls groupVersion).findRev? (·.kind = kind)).map (·.name) := by
  rw [resource?, getElem?_tables_ofListings, Listing.effective, ← Listing.filter_not_isPart]
  cases ls.findRev? (·.groupVersion = groupVersion) with
  | none => rfl
  | some l => exact NameTable.getElem?_resources_ofResources l.resources kind

theorem size_ofListings (ls : List Listing) :
    (ofListings ls).size = (ls.map (·.groupVersion)).toFinset.card := by
  have hkeys : (ofListings ls).tables.keys.toFinset = (ls.map (·.groupVersion)).toFinset := by
    ext groupVersion
    rw [List.mem_toFinset, List.mem_toFinset, ExtTreeMap.mem_keys, mem_tables_ofListings,
      List.mem_map]
  rw [size, ← ExtTreeMap.length_keys, ← hkeys, List.toFinset_card_of_nodup ExtTreeMap.nodup_keys]

theorem add_withoutParts (c : Catalog) (l : Listing) : c.add l.withoutParts = c.add l := by
  rw [add, add, Listing.withoutParts, ← Listing.filter_not_isPart, NameTable.ofResources_filter]

theorem ofListings_map_withoutParts (ls : List Listing) :
    ofListings (ls.map Listing.withoutParts) = ofListings ls := by
  rw [ofListings, ofListings, List.foldl_map]
  simp only [add_withoutParts]

theorem findRev?_unreplaced (ls : List Listing) (groupVersion : String) :
    (Listing.unreplaced ls).findRev? (·.groupVersion = groupVersion) =
      ls.findRev? (·.groupVersion = groupVersion) := by
  fun_induction Listing.unreplaced ls with
  | case1 => rfl
  | case2 l ls h ih =>
    rw [ih, List.findRev?]
    by_cases hl : l.groupVersion = groupVersion
    · -- the listing left out is not the last of its API version
      obtain ⟨later, hlater⟩ := exists_findRev?_iff.mpr (List.any_eq_true.mp h)
      rw [hl] at hlater
      rw [hlater]
    · cases ls.findRev? (·.groupVersion = groupVersion) <;> simp [hl]
  | case3 l ls h ih => rw [List.findRev?, List.findRev?, ih]

theorem ext_tables {c c' : Catalog}
    (h : ∀ groupVersion : String, c.tables[groupVersion]? = c'.tables[groupVersion]?) : c = c' :=
  congrArg Catalog.mk (ExtTreeMap.ext_getElem? h)

theorem ofListings_unreplaced (ls : List Listing) :
    ofListings (Listing.unreplaced ls) = ofListings ls := by
  refine ext_tables fun groupVersion => ?_
  rw [getElem?_tables_ofListings, getElem?_tables_ofListings, findRev?_unreplaced]

/-- A catalog is known from its API versions and from what it finds in them. -/
theorem eq_iff_lookups {c c' : Catalog} : c = c' ↔
    (∀ groupVersion, groupVersion ∈ c.tables ↔ groupVersion ∈ c'.tables) ∧
    (∀ groupVersion resource,
      c.kindFor groupVersion resource = c'.kindFor groupVersion resource) ∧
    ∀ groupVersion kind,
      c.resourceFor groupVersion kind = c'.resourceFor groupVersion kind := by
  simp only [kindFor_eq_kindFor_iff, resourceFor_eq_resourceFor_iff]
  constructor
  · rintro rfl
    exact ⟨fun _ => Iff.rfl, fun _ _ => rfl, fun _ _ => rfl⟩
  · intro h
    obtain ⟨hlisted, hkind, hresource⟩ := h
    refine ext_tables fun groupVersion => ?_
    have hl := hlisted groupVersion
    have hk := hkind groupVersion
    have hr := hresource groupVersion
    rw [ExtTreeMap.mem_iff_isSome_getElem?, ExtTreeMap.mem_iff_isSome_getElem?] at hl
    simp only [kind?, resource?] at hk hr
    cases hn : c.tables[groupVersion]? with
    | none =>
      cases hn' : c'.tables[groupVersion]? with
      | none => rfl
      | some n' => simp [hn, hn'] at hl
    | some n =>
      cases hn' : c'.tables[groupVersion]? with
      | none => simp [hn, hn'] at hl
      | some n' =>
        simp only [hn, hn', Option.bind_some] at hk hr
        exact congrArg some (NameTable.ext_lookups hk hr)

theorem kindFor_ofListings_eq_ok_iff :
    (ofListings ls).kindFor groupVersion resource = .ok kind ↔
      ∃ r, (Listing.effective ls groupVersion).findRev? (·.name = resource) = some r ∧
        r.kind = kind := by
  rw [kindFor_eq_ok_iff, kind?_ofListings, Option.map_eq_some_iff]

theorem resourceFor_ofListings_eq_ok_iff :
    (ofListings ls).resourceFor groupVersion kind = .ok resource ↔
      ∃ r, (Listing.effective ls groupVersion).findRev? (·.kind = kind) = some r ∧
        r.name = resource := by
  rw [resourceFor_eq_ok_iff, resource?_ofListings, Option.map_eq_some_iff]

/-- A catalog answers with the last entry of the last listing, in each direction by itself, and
fails where there is none. It counts the API versions listed, it is the same without parts and with
only the last listing of each API version, and it is known from its API versions and its answers. -/
theorem answers_last_entry (ls : List Listing) :
    (∀ groupVersion resource,
      (∀ kind, (ofListings ls).kindFor groupVersion resource = .ok kind ↔
        ∃ r, (Listing.effective ls groupVersion).findRev? (·.name = resource) = some r ∧
          r.kind = kind) ∧
      ∀ failure, (ofListings ls).kindFor groupVersion resource = .error failure ↔
        (Listing.effective ls groupVersion).findRev? (·.name = resource) = none ∧
          failure = .kindNotFound resource groupVersion) ∧
    (∀ groupVersion kind,
      (∀ resource, (ofListings ls).resourceFor groupVersion kind = .ok resource ↔
        ∃ r, (Listing.effective ls groupVersion).findRev? (·.kind = kind) = some r ∧
          r.name = resource) ∧
      ∀ failure, (ofListings ls).resourceFor groupVersion kind = .error failure ↔
        (Listing.effective ls groupVersion).findRev? (·.kind = kind) = none ∧
          failure = .resourceNotFound kind groupVersion) ∧
    (∀ groupVersion kind, (ofListings ls).hasKind groupVersion kind ↔
      ∃ resource, (ofListings ls).resourceFor groupVersion kind = .ok resource) ∧
    (∀ groupVersion resource, (ofListings ls).hasResource groupVersion resource ↔
      ∃ kind, (ofListings ls).kindFor groupVersion resource = .ok kind) ∧
    (ofListings ls).size = (ls.map (·.groupVersion)).toFinset.card ∧
    ofListings (ls.map Listing.withoutParts) = ofListings ls ∧
    ((Listing.unreplaced ls).Sublist ls ∧
      ((Listing.unreplaced ls).map (·.groupVersion)).Nodup ∧
      ofListings (Listing.unreplaced ls) = ofListings ls) ∧
    ∀ ls', ofListings ls = ofListings ls' ↔
      (∀ groupVersion, (∃ l ∈ ls, l.groupVersion = groupVersion) ↔
        ∃ l ∈ ls', l.groupVersion = groupVersion) ∧
      (∀ groupVersion resource, (ofListings ls).kindFor groupVersion resource =
        (ofListings ls').kindFor groupVersion resource) ∧
      ∀ groupVersion kind, (ofListings ls).resourceFor groupVersion kind =
        (ofListings ls').resourceFor groupVersion kind := by
  refine ⟨?_, ?_, ?_, ?_, size_ofListings ls, ofListings_map_withoutParts ls,
    ⟨Listing.unreplaced_sublist ls, Listing.nodup_unreplaced ls, ofListings_unreplaced ls⟩, ?_⟩
  · intro groupVersion resource
    refine ⟨fun kind => kindFor_ofListings_eq_ok_iff, fun failure => ?_⟩
    rw [kindFor_eq_error_iff, kind?_ofListings, Option.map_eq_none_iff]
  · intro groupVersion kind
    refine ⟨fun resource => resourceFor_ofListings_eq_ok_iff, fun failure => ?_⟩
    rw [resourceFor_eq_error_iff, resource?_ofListings, Option.map_eq_none_iff]
  · intro groupVersion kind
    simp only [hasKind_iff, resourceFor_eq_ok_iff]
  · intro groupVersion resource
    simp only [hasResource_iff, kindFor_eq_ok_iff]
  · intro ls'
    rw [eq_iff_lookups]
    simp only [mem_tables_ofListings]

/-- The first listing is forgotten. Behind the resource stands the kind listed last, and the kind
before it still has its resource. -/
example :
    let c := ofListings
      [⟨"pond.org/v1", [⟨"Swan", "swans"⟩]⟩,
        ⟨"pond.org/v1", [⟨"Goose", "geese"⟩, ⟨"Gosling", "geese"⟩, ⟨"Egg", "geese/eggs"⟩]⟩]
    c.kindFor "pond.org/v1" "swans" = .error (.kindNotFound "swans" "pond.org/v1") ∧
      c.kindFor "pond.org/v1" "geese" = .ok "Gosling" ∧
      c.resourceFor "pond.org/v1" "Goose" = .ok "geese" := by
  decide +kernel

end Catalog
end DuckCensus
