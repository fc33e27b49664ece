import DuckCensus.Proofs.GroupVersion
import DuckCensus.Survey
import Mathlib.Data.Set.Card

/-! Counting the kinds in findings: each pair of a group and a kind once, wherever it was found and
in however many versions. -/
namespace DuckCensus
open Std

theorem nodup_eraseDups {α : Type} [BEq α] [LawfulBEq α] (xs : List α) : xs.eraseDups.Nodup := by
  cases xs with
  | nil => exact List.nodup_nil
  | cons x xs =>
    rw [List.eraseDups_cons, List.nodup_cons]
    refine ⟨?_, nodup_eraseDups _⟩
    simp [List.mem_eraseDups]
termination_by xs.length
decreasing_by exact Nat.lt_succ_of_le (List.length_filter_le _ _)

/-- A set is as large as a list of what is in it, counted without repetitions. -/
theorem encard_eq_length_eraseDups {α : Type} [BEq α] [LawfulBEq α] {S : Set α} {xs : List α}
    (h : ∀ x, x ∈ S ↔ x ∈ xs) : S.encard = (xs.eraseDups.length : ℕ∞) := by
  classical
  have hS : S = (xs.eraseDups.toFinset : Set α) := by
    ext x
    rw [h, List.coe_toFinset, Set.mem_ofPred_eq, List.mem_eraseDups]
  rw [hS, Set.encard_coe_eq_coe_finsetCard, List.toFinset_card_of_nodup (nodup_eraseDups _)]

theorem values_eq_map_toList {α β : Type} {cmp : α → α → Ordering} [TransCmp cmp]
    (m : ExtTreeMap α β cmp) : m.values = m.toList.map (·.2) := by
  -- the values are collected as the pairs are, and folds are known through the list of pairs
  have hfold : m.values = m.foldr (fun _ b bs => b :: bs) [] := by
    obtain ⟨⟨m⟩⟩ := m
    induction m using Quotient.ind
    rfl
  rw [hfold, ExtTreeMap.foldr_eq_foldr_toList, List.map_eq_foldr]

namespace Findings

def kinds (f : Findings) : Set (String × String) :=
  {p | ∃ v duck, f.Lists v duck ∧ (duck.group, duck.kind) = p}

def entries (f : Findings) : Set Duck := {duck | ∃ v, f.Lists v duck}

theorem mem_values_iff {f : Findings} {ducks : List Duck} :
    ducks ∈ f.values ↔ ∃ v : String, f[v]? = some ducks := by
  simp only [values_eq_map_toList, List.mem_map, Prod.exists, exists_eq_right,
    ExtTreeMap.mem_toList_iff_getElem?_eq_some]

theorem mem_entries_iff {f : Findings} {duck : Duck} :
    duck ∈ f.entries ↔ duck ∈ f.values.flatten := by
  rw [List.mem_flatten]
  constructor
  · intro h
    obtain ⟨v, ducks, hv, hd⟩ := h
    exact ⟨ducks, mem_values_iff.mpr ⟨v, hv⟩, hd⟩
  · intro h
    obtain ⟨ducks, hb, hd⟩ := h
    obtain ⟨v, hv⟩ := mem_values_iff.mp hb
    exact ⟨v, ducks, hv, hd⟩

theorem kinds_eq_image (f : Findings) :
    f.kinds = (fun duck => (duck.group, duck.kind)) '' f.entries := by
  ext p
  constructor
  · intro h
    obtain ⟨v, duck, hl, hp⟩ := h
    exact ⟨duck, ⟨v, hl⟩, hp⟩
  · intro h
    obtain ⟨duck, ⟨v, hl⟩, hp⟩ := h
    exact ⟨v, duck, hl, hp⟩

theorem encard_kinds (f : Findings) : f.kinds.encard = f.kindCount := by
  rw [kindCount]
  apply encard_eq_length_eraseDups
  intro p
  simp only [kinds_eq_image, Set.mem_image, mem_entries_iff, List.mem_map]

theorem kindCount_of_kinds_subset {f f' : Findings} (h : f.kinds ⊆ f'.kinds) :
    f.kindCount ≤ f'.kindCount := by
  have hle := Set.encard_le_encard h
  rwa [encard_kinds, encard_kinds, Nat.cast_le] at hle

theorem kindCount_of_kinds_eq {f f' : Findings} (h : f.kinds = f'.kinds) :
    f.kindCount = f'.kindCount :=
  Nat.le_antisymm (kindCount_of_kinds_subset h.subset) (kindCount_of_kinds_subset h.superset)

/-- Findings that agree in whatever tells the identities of their ducks have the same kinds. -/
theorem kinds_subset {γ : Type} {p : Duck → Identity × γ} (hp : ∀ d, (p d).1 = d.toIdentity)
    {f f' : Findings} (h : ∀ v : String, f[v]?.map (List.map p) = f'[v]?.map (List.map p)) :
    f.kinds ⊆ f'.kinds := by
  intro k hk
  obtain ⟨v, duck, ⟨ducks, hv, hd⟩, rfl⟩ := hk
  have hf := h v
  rw [hv, Option.map_some] at hf
  obtain ⟨ducks', hv', he⟩ := Option.map_eq_some_iff.mp hf.symm
  have hm : p duck ∈ ducks'.map p := he ▸ List.mem_map_of_mem hd
  obtain ⟨duck', hd', hpd⟩ := List.mem_map.mp hm
  have hi : duck'.toIdentity = duck.toIdentity := by rw [← hp, hpd, hp]
  refine ⟨v, duck', ⟨ducks', hv', hd'⟩, ?_⟩
  rw [hi]

theorem kindCount_congr {γ : Type} {p : Duck → Identity × γ} (hp : ∀ d, (p d).1 = d.toIdentity)
    {f f' : Findings} (h : ∀ v : String, f[v]?.map (List.map p) = f'[v]?.map (List.map p)) :
    f.kindCount = f'.kindCount :=
  kindCount_of_kinds_eq
    (Set.Subset.antisymm (kinds_subset hp h) (kinds_subset hp fun v => (h v).symm))

theorem kindCount_le_length (f : Findings) :
    f.kindCount ≤ (f.values.map List.length).sum := by
  have hsub : (f.values.flatten.map fun duck => (duck.group, duck.kind)).eraseDups ⊆
      f.values.flatten.map fun duck => (duck.group, duck.kind) :=
    fun p hp => List.mem_eraseDups.mp hp
  have hle := ((nodup_eraseDups _).subperm hsub).length_le
  rwa [List.length_map, List.length_flatten] at hle

theorem kindCount_eq_zero_iff_forall_nil {f : Findings} :
    f.kindCount = 0 ↔ ∀ ducks ∈ f.values, ducks = [] := by
  rw [← Nat.cast_inj (R := ℕ∞), ← encard_kinds, Nat.cast_zero, Set.encard_eq_zero,
    kinds_eq_image, Set.image_eq_empty, Set.eq_empty_iff_forall_notMem,
    ← List.flatten_eq_nil_iff, List.eq_nil_iff_forall_not_mem]
  simp only [mem_entries_iff]

/-- Without an empty bucket, nothing is counted only where nothing was found. -/
theorem kindCount_eq_zero_iff {f : Findings}
    (h : ∀ (v : String) (ducks : List Duck), f[v]? = some ducks → ducks ≠ []) :
    f.kindCount = 0 ↔ f = ∅ := by
  rw [kindCount_eq_zero_iff_forall_nil, ExtTreeMap.eq_empty_iff_forall_not_mem]
  constructor
  · intro hnil v hv
    obtain ⟨ducks, hb⟩ := Option.isSome_iff_exists.mp (ExtTreeMap.mem_iff_isSome_getElem?.mp hv)
    exact h v ducks hb (hnil ducks (mem_values_iff.mpr ⟨v, hb⟩))
  · intro hf ducks hd
    obtain ⟨v, hb⟩ := mem_values_iff.mp hd
    exact absurd (by rw [ExtTreeMap.mem_iff_isSome_getElem?, hb]; rfl) (hf v)

end Findings

namespace Census

theorem kinds_findings (c : Census) : c.findings.kinds =
    {p | ∃ s ∈ c.sightings, (s.duck.group, s.duck.kind) = p} := by
  ext p
  constructor
  · intro h
    obtain ⟨v, duck, hl, rfl⟩ := h
    obtain ⟨s, hs, -, hi⟩ := exists_findings_lists_iff_exists_sighting.mp ⟨duck, hl, rfl⟩
    exact ⟨s, hs, by rw [hi]⟩
  · intro h
    obtain ⟨s, hs, rfl⟩ := h
    obtain ⟨duck, hl, hi⟩ := exists_findings_lists_iff_exists_sighting.mpr ⟨s, hs, rfl, rfl⟩
    exact ⟨s.duckVersion, duck, hl, by rw [hi]⟩

/-- Each kind that was seen is counted once, whatever the buckets look like. -/
theorem kindCount_findings (c : Census) : c.findings.kindCount =
    ((c.sightings.map fun s => (s.duck.group, s.duck.kind)).eraseDups).length := by
  rw [← Nat.cast_inj (R := ℕ∞), ← Findings.encard_kinds, kinds_findings]
  apply encard_eq_length_eraseDups
  simp

end Census

/-- The same kind in the same group. The version may be another one without a slash, and the scope
and the mark are free. -/
def Duck.Alike (d d' : Duck) : Prop :=
  d'.kind = d.kind ∧ (d'.apiVersion = d.apiVersion ∨ ∃ version : String,
    '/' ∉ version.toList ∧ d'.apiVersion = (GroupVersion.mk d.group version).text)

theorem Duck.Alike.group_eq {d d' : Duck} (h : d.Alike d') : d'.group = d.group := by
  obtain ⟨-, h | ⟨version, hv, h⟩⟩ := h
  · rw [Identity.group, Identity.groupVersion, h]
    rfl
  · rw [Identity.group, Identity.groupVersion, h, GroupVersion.read_text hv]

theorem Duck.alike_ofGroup {version version' : String} (h : '/' ∉ version.toList)
    (h' : '/' ∉ version'.toList) (group kind : String) (scope scope' : Scope) :
    (ofGroup group version kind scope).Alike (ofGroup group version' kind scope') := by
  have hg : (ofGroup group version kind scope).group = group :=
    congrArg GroupVersion.group (groupVersion_ofGroup h)
  refine ⟨rfl, Or.inr ⟨version', h', ?_⟩⟩
  rw [hg]
  rfl

namespace Findings

/-- Each entry of one has its like among the entries of the other. So have findings whose entries
were copied or moved, whose buckets were renamed or merged, or in whose entries only what the count
does not read was changed. -/
def Alike (f f' : Findings) : Prop :=
  (∀ duck ∈ f.entries, ∃ duck' ∈ f'.entries, duck.Alike duck') ∧
    ∀ duck' ∈ f'.entries, ∃ duck ∈ f.entries, duck.Alike duck'

theorem Alike.kinds_eq {f f' : Findings} (h : f.Alike f') : f.kinds = f'.kinds := by
  have hkind {duck duck' : Duck} (ha : duck.Alike duck') :
      (duck'.group, duck'.kind) = (duck.group, duck.kind) := by
    rw [ha.group_eq, ha.1]
  rw [kinds_eq_image, kinds_eq_image]
  apply Set.Subset.antisymm
  · rintro p ⟨duck, hd, rfl⟩
    obtain ⟨duck', hd', ha⟩ := h.1 duck hd
    exact ⟨duck', hd', hkind ha⟩
  · rintro p ⟨duck', hd', rfl⟩
    obtain ⟨duck, hd, ha⟩ := h.2 duck' hd'
    exact ⟨duck, hd, (hkind ha).symm⟩

/-- What both have in common is counted once. -/
theorem kindCount_of_union {f f₁ f₂ : Findings} (h : f.entries = f₁.entries ∪ f₂.entries) :
    f₁.kindCount ≤ f.kindCount ∧ f₂.kindCount ≤ f.kindCount ∧
      f.kindCount ≤ f₁.kindCount + f₂.kindCount := by
  have hk : f.kinds = f₁.kinds ∪ f₂.kinds := by
    rw [kinds_eq_image, kinds_eq_image, kinds_eq_image, h, Set.image_union]
  refine ⟨kindCount_of_kinds_subset ?_, kindCount_of_kinds_subset ?_, ?_⟩
  · rw [hk]
    exact Set.subset_union_left
  · rw [hk]
    exact Set.subset_union_right
  · have hle := Set.encard_union_le f₁.kinds f₂.kinds
    rwa [← hk, encard_kinds, encard_kinds, encard_kinds, ← Nat.cast_add, Nat.cast_le] at hle

/-- The count is the number of pairs of a group and a kind among the entries. It is the same for
findings with like entries, the sum bounds it for the entries of two findings together, and it is
never more than the number of entries and zero only without any. -/
theorem kindCount_of_entries (f : Findings) :
    f.kinds.encard = f.kindCount ∧
    (∀ f' : Findings, f.Alike f' → f'.kindCount = f.kindCount) ∧
    (∀ f₁ f₂ : Findings, f.entries = f₁.entries ∪ f₂.entries →
      f₁.kindCount ≤ f.kindCount ∧ f₂.kindCount ≤ f.kindCount ∧
        f.kindCount ≤ f₁.kindCount + f₂.kindCount) ∧
    f.kindCount ≤ (f.values.map List.length).sum ∧
    (f.kindCount = 0 ↔ ∀ ducks ∈ f.values, ducks = []) := by
  refine ⟨f.encard_kinds, ?_, fun f₁ f₂ => kindCount_of_union, f.kindCount_le_length,
    kindCount_eq_zero_iff_forall_nil⟩
  intro f' h
  exact kindCount_of_kinds_eq h.kinds_eq.symm

def pondGeese : List Duck :=
  [.ofGroup "pond.org" "v1" "Goose" .namespaced, .ofGroup "pond.org" "v2" "Goose" .namespaced]

def lakeGeese : List Duck := [.ofGroup "lake.org" "v1" "Goose" .cluster]

def waters : Findings := .ofList [("v1", pondGeese), ("v2", lakeGeese)]

def otherGeese : List Duck :=
  [.ofGroup "lake.org" "v7" "Goose" .namespaced, .ofGroup "pond.org" "v2" "Goose" .cluster]

def watersMerged : Findings := .ofList [("all", otherGeese)]

def pondOnly : Findings := .ofList [("v3", pondGeese.reverse)]

def lakeOnly : Findings := .ofList [("v1", []), ("v2", lakeGeese)]

theorem kindCount_of_entries_waters :
    waters.kinds.encard = 2 ∧ watersMerged.kindCount = waters.kindCount ∧
    waters.kindCount ≤ pondOnly.kindCount + lakeOnly.kindCount ∧
    waters.kindCount ≤ 3 ∧ ¬ ∀ ducks ∈ waters.values, ducks = [] := by
  obtain ⟨hcard, halike, hunion, hle, hzero⟩ := kindCount_of_entries waters
  have htwo : waters.kindCount = 2 := by decide +kernel
  have hwaters : waters.values.flatten = pondGeese ++ lakeGeese := by decide +kernel
  have hmerged : watersMerged.values.flatten = otherGeese := by decide +kernel
  have hpond : pondOnly.values.flatten = pondGeese.reverse := by decide +kernel
  have hlake : lakeOnly.values.flatten = lakeGeese := by decide +kernel
  have hfirst : (Duck.ofGroup "pond.org" "v1" "Goose" .namespaced).Alike
      (.ofGroup "pond.org" "v2" "Goose" .cluster) :=
    Duck.alike_ofGroup (by decide) (by decide) _ _ _ _
  have hsecond : (Duck.ofGroup "pond.org" "v2" "Goose" .namespaced).Alike
      (.ofGroup "pond.org" "v2" "Goose" .cluster) := ⟨rfl, Or.inl rfl⟩
  have hthird : (Duck.ofGroup "lake.org" "v1" "Goose" .cluster).Alike
      (.ofGroup "lake.org" "v7" "Goose" .namespaced) :=
    Duck.alike_ofGroup (by decide) (by decide) _ _ _ _
  refine ⟨by rw [hcard, htwo]; rfl, halike _ ⟨?_, ?_⟩, (hunion _ _ ?_).2.2, hle, ?_⟩
  · simp only [mem_entries_iff, hwaters, hmerged, pondGeese, lakeGeese, otherGeese,
      List.cons_append, List.nil_append, List.forall_mem_cons]
    exact ⟨⟨_, by simp, hfirst⟩, ⟨_, by simp, hsecond⟩, ⟨_, by simp, hthird⟩, by simp⟩
  · simp only [mem_entries_iff, hwaters, hmerged, pondGeese, lakeGeese, otherGeese,
      List.cons_append, List.nil_append, List.forall_mem_cons]
    exact ⟨⟨_, by simp, hthird⟩, ⟨_, by simp, hfirst⟩, by simp⟩
  · ext duck
    simp only [Set.mem_union, mem_entries_iff, hwaters, hpond, hlake, List.mem_append,
      List.mem_reverse]
  · rw [← hzero, htwo]
    exact Nat.succ_ne_zero 1

end Findings
end DuckCensus
