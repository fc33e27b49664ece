import DuckCensus.Proofs.Catalog.Listings

/-! The two directions of a catalog. They are inverse to each other only where no kind and no
resource is listed twice, but what one direction answers the other always knows. -/
namespace DuckCensus

theorem of_findRev?_eq_some {α : Type} {p : α → Bool} {xs : List α} {x : α}
    (h : xs.findRev? p = some x) : x ∈ xs ∧ p x := by
  rw [List.findRev?_eq_find?_reverse] at h
  exact ⟨List.mem_reverse.mp (List.mem_of_find?_eq_some h), List.find?_some h⟩

/-- Where no key comes twice, the last item of a key is the only one. -/
theorem findRev?_eq_some_iff_of_nodup {α : Type} {key : α → String} {xs : List α}
    (h : (xs.map key).Nodup) {k : String} {x : α} :
    xs.findRev? (key · = k) = some x ↔ x ∈ xs ∧ key x = k := by
  constructor
  · intro hx
    obtain ⟨hm, hk⟩ := of_findRev?_eq_some hx
    exact ⟨hm, of_decide_eq_true hk⟩
  · rintro ⟨hm, rfl⟩
    have hlast : ∃ y, xs.findRev? (key · = key x) = some y :=
      exists_findRev?_iff.mpr ⟨x, hm, decide_eq_true rfl⟩
    obtain ⟨y, hy⟩ := hlast
    obtain ⟨hym, hyk⟩ := of_findRev?_eq_some hy
    rw [hy, List.inj_on_of_nodup_map h hym hm (of_decide_eq_true hyk)]

namespace Catalog
variable {ls : List Listing} {groupVersion kind resource : String}

theorem hasResource_ofListings_iff : (ofListings ls).hasResource groupVersion resource ↔
    ∃ r ∈ Listing.effective ls groupVersion, r.name = resource := by
  simp only [hasResource_iff, ← kindFor_eq_ok_iff, kindFor_ofListings_eq_ok_iff]
  rw [exists_comm]
  simp only [exists_eq_right', exists_findRev?_iff, decide_eq_true_eq]

theorem hasKind_of_kindFor (h : (ofListings ls).kindFor groupVersion resource = .ok kind) :
    (ofListings ls).hasKind groupVersion kind :=
  (closed_ofListings ls).hasKind_of_kind? (kindFor_eq_ok_iff.mp h)

theorem hasResource_of_resourceFor
    (h : (ofListings ls).resourceFor groupVersion kind = .ok resource) :
    (ofListings ls).hasResource groupVersion resource := by
  obtain ⟨r, hr, rfl⟩ := resourceFor_ofListings_eq_ok_iff.mp h
  exact hasResource_ofListings_iff.mpr ⟨r, (of_findRev?_eq_some hr).1, rfl⟩

/-- Parts are left out of both directions. -/
theorem not_hasResource_of_slash (h : '/' ∈ resource.toList) :
    ¬ (ofListings ls).hasResource groupVersion resource := by
  intro hr
  obtain ⟨r, hm, rfl⟩ := hasResource_ofListings_iff.mp hr
  exact of_decide_eq_true (List.mem_filter.mp hm).2 h

/-- Where nothing is listed twice, each direction finds the only entry of its name. -/
theorem kindFor_eq_ok_iff_resourceFor
    (hkinds : ((Listing.effective ls groupVersion).map (·.kind)).Nodup)
    (hnames : ((Listing.effective ls groupVersion).map (·.name)).Nodup) :
    (ofListings ls).kindFor groupVersion resource = .ok kind ↔
      (ofListings ls).resourceFor groupVersion kind = .ok resource := by
  rw [kindFor_ofListings_eq_ok_iff, resourceFor_ofListings_eq_ok_iff]
  simp only [findRev?_eq_some_iff_of_nodup hkinds, findRev?_eq_some_iff_of_nodup hnames]
  exact exists_congr fun r => and_right_comm

/-- What one direction answers is known in the other and leads back to a name that is known, no part
is known in either, and where nothing is listed twice the two directions are inverse. -/
theorem directions_never_dangle (ls : List Listing) (groupVersion : String) :
    (∀ resource kind, (ofListings ls).kindFor groupVersion resource = .ok kind →
      (ofListings ls).hasKind groupVersion kind ∧
      ∃ resource', (ofListings ls).resourceFor groupVersion kind = .ok resource' ∧
        (ofListings ls).hasResource groupVersion resource') ∧
    (∀ kind resource, (ofListings ls).resourceFor groupVersion kind = .ok resource →
      (ofListings ls).hasResource groupVersion resource ∧
      ∃ kind', (ofListings ls).kindFor groupVersion resource = .ok kind' ∧
        (ofListings ls).hasKind groupVersion kind') ∧
    (∀ name : String, '/' ∈ name.toList →
      ¬ (ofListings ls).hasResource groupVersion name ∧
      ∀ kind, (ofListings ls).resourceFor groupVersion kind ≠ .ok name) ∧
    (((Listing.effective ls groupVersion).map (·.kind)).Nodup →
      ((Listing.effective ls groupVersion).map (·.name)).Nodup → ∀ resource kind,
        (ofListings ls).kindFor groupVersion resource = .ok kind ↔
          (ofListings ls).resourceFor groupVersion kind = .ok resource) := by
  refine ⟨?_, ?_, ?_, fun hkinds hnames _ _ => kindFor_eq_ok_iff_resourceFor hkinds hnames⟩
  · intro resource kind h
    have hknown := hasKind_of_kindFor h
    obtain ⟨resource', hr⟩ := hasKind_iff.mp hknown
    have hback := resourceFor_eq_ok_iff.mpr hr
    exact ⟨hknown, resource', hback, hasResource_of_resourceFor hback⟩
  · intro kind resource h
    have hknown := hasResource_of_resourceFor h
    obtain ⟨kind', hk⟩ := hasResource_iff.mp hknown
    have hback := kindFor_eq_ok_iff.mpr hk
    exact ⟨hknown, kind', hback, hasKind_of_kindFor hback⟩
  · intro name hslash
    have hunknown : ¬ (ofListings ls).hasResource groupVersion name :=
      not_hasResource_of_slash hslash
    exact ⟨hunknown, fun kind h => hunknown (hasResource_of_resourceFor h)⟩

def flyways : List Listing :=
  [ ⟨"pond.org/v1", [⟨"Goose", "geese"⟩, ⟨"Gosling", "geese"⟩, ⟨"Egg", "geese/eggs"⟩]⟩,
    ⟨"lake.org/v1", [⟨"Goose", "geese"⟩, ⟨"Swan", "swans"⟩, ⟨"Swan", "swans/status"⟩]⟩ ]

/-- From goslings the way leads to geese and back to goslings, but from the goose it does not lead
back to her. At the other API version every way leads back. -/
theorem directions_never_dangle_flyways :
    (ofListings flyways).hasKind "pond.org/v1" "Gosling" ∧
    (∃ kind, (ofListings flyways).resourceFor "pond.org/v1" "Goose" = .ok "geese" ∧
      (ofListings flyways).kindFor "pond.org/v1" "geese" = .ok kind ∧ kind ≠ "Goose" ∧
      (ofListings flyways).hasKind "pond.org/v1" kind) ∧
    ¬ (ofListings flyways).hasResource "pond.org/v1" "geese/eggs" ∧
    ∀ resource kind, (ofListings flyways).kindFor "lake.org/v1" resource = .ok kind ↔
      (ofListings flyways).resourceFor "lake.org/v1" kind = .ok resource := by
  obtain ⟨hkind, hresource, hslash, -⟩ := directions_never_dangle flyways "pond.org/v1"
  obtain ⟨-, -, -, hinverse⟩ := directions_never_dangle flyways "lake.org/v1"
  have hgeese : (ofListings flyways).kindFor "pond.org/v1" "geese" = .ok "Gosling" := by
    decide +kernel
  have hgoose : (ofListings flyways).resourceFor "pond.org/v1" "Goose" = .ok "geese" := by
    decide +kernel
  refine ⟨(hkind _ _ hgeese).1, ?_, (hslash _ (by decide +kernel)).1,
    hinverse (by decide +kernel) (by decide +kernel)⟩
  obtain ⟨-, kind, hk, hknown⟩ := hresource _ _ hgoose
  cases hgeese.symm.trans hk
  exact ⟨"Gosling", hgoose, hgeese, by decide, hknown⟩

end Catalog
end DuckCensus
