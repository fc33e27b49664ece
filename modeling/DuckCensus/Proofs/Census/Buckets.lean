import DuckCensus.Census.Session
import DuckCensus.Proofs.Text.ByteOrder
import Mathlib.Data.List.Induction
import Mathlib.Data.List.Sort

/-! What the findings of a census hold: of every duck version and identity the first sighting, and
nothing that was not seen. -/
namespace DuckCensus
open Std Text

/-- The order of ducks in a bucket: by the bytes of the API version, then by those of the kind. -/
def Identity.Precedes (i j : Identity) : Prop :=
  bytes i.apiVersion < bytes j.apiVersion ∨
    i.apiVersion = j.apiVersion ∧ bytes i.kind < bytes j.kind

namespace Identity
variable {i j k : Identity}

theorem compare_eq_lt_iff : compare i j = .lt ↔ i.Precedes j := by
  change (compare i.apiVersion j.apiVersion).then (compare i.kind j.kind) = .lt ↔ _
  rw [Ordering.then_eq_lt, LawfulEqCmp.compare_eq_iff_eq, Text.compare_eq_lt_iff,
    Text.compare_eq_lt_iff]
  rfl

theorem Precedes.ne (h : i.Precedes j) : i ≠ j := by
  rintro rfl
  have hlt := compare_eq_lt_iff.mpr h
  have heq : compare i i = .eq := ReflCmp.compare_self
  rw [heq] at hlt
  cases hlt

theorem Precedes.trans (hij : i.Precedes j) (hjk : j.Precedes k) : i.Precedes k :=
  compare_eq_lt_iff.mp (TransCmp.lt_trans (compare_eq_lt_iff.mpr hij) (compare_eq_lt_iff.mpr hjk))

/-- Sorted lists without repetition are known from what is in them. -/
theorem eq_of_mem_iff {α : Type} {key : α → Identity} {xs ys : List α}
    (hx : xs.Pairwise fun a b => (key a).Precedes (key b))
    (hy : ys.Pairwise fun a b => (key a).Precedes (key b)) (h : ∀ a, a ∈ xs ↔ a ∈ ys) :
    xs = ys := by
  have : Std.Irrefl fun a b : α => (key a).Precedes (key b) := ⟨fun _ h => h.ne rfl⟩
  have : Std.Antisymm fun a b : α => (key a).Precedes (key b) :=
    ⟨fun _ _ hab hba => absurd rfl (hab.trans hba).ne⟩
  exact hx.eq_of_mem_iff hy h

end Identity

/-! The first of each run -/
section EraseReps
variable {α : Type} {r : α → α → Bool}

theorem eraseRepsBy_loop (a : α) (xs acc : List α) : List.eraseRepsBy.loop r a xs acc =
    acc.reverse ++ List.eraseRepsBy.loop r a xs [] := by
  induction xs generalizing a acc with
  | nil => simp [List.eraseRepsBy.loop]
  | cons b xs ih =>
    rw [List.eraseRepsBy.loop, List.eraseRepsBy.loop]
    cases r a b with
    | true => exact ih a acc
    | false =>
      rw [ih b (a :: acc), ih b [a]]
      simp

theorem eraseRepsBy_singleton (a : α) : [a].eraseRepsBy r = [a] := rfl

theorem eraseRepsBy_cons_cons (a b : α) (xs : List α) : (a :: b :: xs).eraseRepsBy r =
    if r a b then (a :: xs).eraseRepsBy r else a :: (b :: xs).eraseRepsBy r := by
  simp only [List.eraseRepsBy]
  rw [List.eraseRepsBy.loop]
  cases r a b with
  | true => rfl
  | false => exact eraseRepsBy_loop b xs [a]

theorem eraseRepsBy_subset (a : α) (xs : List α) : (a :: xs).eraseRepsBy r ⊆ a :: xs := by
  induction xs generalizing a with
  | nil => exact List.Subset.refl _
  | cons b xs ih =>
    rw [eraseRepsBy_cons_cons]
    cases r a b with
    | true =>
      exact List.Subset.trans (ih a) (List.cons_subset_cons a (List.subset_cons_self b xs))
    | false => exact List.cons_subset_cons a (ih b)

end EraseReps

namespace Duck
variable {a b c d : Duck} {ds : List Duck} {i : Identity}

theorem same_iff : same a b ↔ a.toIdentity = b.toIdentity := decide_eq_true_iff

theorem notAfter_iff : notAfter a b ↔
    a.toIdentity.Precedes b.toIdentity ∨ a.toIdentity = b.toIdentity := by
  rw [notAfter, Ordering.isLE_iff_eq_lt_or_eq_eq, Identity.compare_eq_lt_iff,
    LawfulEqCmp.compare_eq_iff_eq]

theorem notAfter_trans (a b c : Duck) (hab : notAfter a b) (hbc : notAfter b c) : notAfter a c :=
  TransCmp.isLE_trans hab hbc

theorem notAfter_total (a b : Duck) : notAfter a b || notAfter b a := by
  have hswap : compare b.toIdentity a.toIdentity = (compare a.toIdentity b.toIdentity).swap :=
    OrientedCmp.eq_swap
  rw [notAfter, notAfter, hswap]
  cases compare a.toIdentity b.toIdentity <;> rfl

theorem precedes_of_not_same (h : (a :: b :: ds).Pairwise fun a b => notAfter a b)
    (hs : ¬ same a b) : ∀ c ∈ b :: ds, a.toIdentity.Precedes c.toIdentity := by
  obtain ⟨ha, hb⟩ := List.pairwise_cons.mp h
  have hab := (notAfter_iff.mp (ha b List.mem_cons_self)).resolve_right (mt same_iff.mpr hs)
  intro c hc
  obtain rfl | hc := List.mem_cons.mp hc
  · exact hab
  · obtain hbc | hbc := notAfter_iff.mp ((List.pairwise_cons.mp hb).1 c hc)
    · exact hab.trans hbc
    · exact hbc ▸ hab

theorem eraseRepsBy_same_sorted (h : ds.Pairwise fun a b => notAfter a b) :
    (ds.eraseRepsBy same).Pairwise fun a b => a.toIdentity.Precedes b.toIdentity := by
  cases ds with
  | nil => exact List.Pairwise.nil
  | cons a ds =>
  induction ds generalizing a with
  | nil => exact List.pairwise_singleton _ a
  | cons b ds ih =>
    rw [eraseRepsBy_cons_cons]
    by_cases hs : same a b
    · rw [if_pos hs]
      exact ih a (h.sublist ((List.sublist_cons_self b ds).cons_cons a))
    · rw [if_neg hs]
      refine List.pairwise_cons.mpr ⟨?_, ih b h.tail⟩
      exact fun c hc => precedes_of_not_same h hs c (eraseRepsBy_subset b ds hc)

/-- Of sorted ducks the first of each identity is left. -/
theorem mem_eraseRepsBy_same_iff (h : ds.Pairwise fun a b => notAfter a b) :
    d ∈ ds.eraseRepsBy same ↔ ds.find? (·.toIdentity = d.toIdentity) = some d := by
  cases ds with
  | nil => simp [List.eraseRepsBy]
  | cons a ds =>
  induction ds generalizing a with
  | nil =>
    rw [eraseRepsBy_singleton, List.mem_singleton, List.find?_singleton]
    constructor
    · rintro rfl
      simp
    · intro hd
      split at hd
      · exact (Option.some_inj.mp hd).symm
      · cases hd
  | cons b ds ih =>
    rw [eraseRepsBy_cons_cons]
    by_cases hs : same a b
    · rw [if_pos hs, ih a (h.sublist ((List.sublist_cons_self b ds).cons_cons a))]
      simp only [List.find?_cons, same_iff.mp hs]
      cases decide (b.toIdentity = d.toIdentity) <;> rfl
    · rw [if_neg hs, List.mem_cons, ih b h.tail]
      by_cases hd : a.toIdentity = d.toIdentity
      · have hfirst : (a :: b :: ds).find? (·.toIdentity = d.toIdentity) = some a :=
          List.find?_cons_of_pos (decide_eq_true hd)
        rw [hfirst, Option.some_inj, eq_comm]
        refine or_iff_left fun hm => ?_
        exact (precedes_of_not_same h hs d (List.mem_of_find?_eq_some hm)).ne hd
      · have hrest : (a :: b :: ds).find? (·.toIdentity = d.toIdentity) =
            (b :: ds).find? (·.toIdentity = d.toIdentity) :=
          List.find?_cons_of_neg (by simpa using hd)
        rw [hrest]
        refine or_iff_right ?_
        rintro rfl
        exact hd rfl

/-- Sorting leaves the same ducks in their order. -/
theorem find?_mergeSort_notAfter (ds : List Duck) (i : Identity) :
    (ds.mergeSort notAfter).find? (·.toIdentity = i) = ds.find? (·.toIdentity = i) := by
  have hsame : (ds.filter (·.toIdentity = i)).Pairwise fun a b => notAfter a b := by
    refine List.pairwise_of_forall_mem_list fun a ha b hb => notAfter_iff.mpr (Or.inr ?_)
    have ha := of_decide_eq_true (List.mem_filter.mp ha).2
    have hb := of_decide_eq_true (List.mem_filter.mp hb).2
    rw [ha, hb]
  have hsub : (ds.filter (·.toIdentity = i)).Sublist (ds.mergeSort notAfter) :=
    List.sublist_mergeSort notAfter_trans notAfter_total hsame List.filter_sublist
  have hfilter : ds.filter (·.toIdentity = i) =
      (ds.mergeSort notAfter).filter (·.toIdentity = i) := by
    have hlength := ((List.mergeSort_perm ds notAfter).filter (·.toIdentity = i)).length_eq
    have hs := hsub.filter (·.toIdentity = i)
    rw [List.filter_filter] at hs
    simp only [Bool.and_self] at hs
    exact hs.eq_of_length hlength.symm
  rw [← List.head?_filter, ← List.head?_filter, hfilter]

/-! What the ducks seen in one duck version come to -/

theorem pairwise_mergeSort_notAfter (ds : List Duck) :
    (ds.mergeSort notAfter).Pairwise fun a b => notAfter a b :=
  List.pairwise_mergeSort notAfter_trans notAfter_total ds

theorem settle_sorted (g : Grants) (ds : List Duck) :
    (settle g ds).Pairwise fun a b => a.toIdentity.Precedes b.toIdentity := by
  rw [settle, List.pairwise_map]
  exact eraseRepsBy_same_sorted (pairwise_mergeSort_notAfter ds)

/-- Every duck that was seen is there, with the scope with which it was first seen. -/
theorem mem_settle_iff {g : Grants} : d ∈ settle g ds ↔
    (ds.find? (·.toIdentity = d.toIdentity)).map (·.scope) = some d.scope ∧
      d.accessible = g.allows d.toIdentity := by
  have hfirst (first : Duck) : first ∈ (ds.mergeSort notAfter).eraseRepsBy same ↔
      ds.find? (·.toIdentity = first.toIdentity) = some first := by
    rw [mem_eraseRepsBy_same_iff (pairwise_mergeSort_notAfter ds), find?_mergeSort_notAfter]
  simp only [settle, List.mem_map, hfirst, Option.map_eq_some_iff]
  constructor
  · intro h
    obtain ⟨first, hf, rfl⟩ := h
    exact ⟨⟨first, hf, rfl⟩, rfl⟩
  · intro h
    obtain ⟨⟨first, hf, hs⟩, ha⟩ := h
    have hi : first.toIdentity = d.toIdentity := by simpa using List.find?_some hf
    refine ⟨first, hi ▸ hf, ?_⟩
    cases d
    simp_all [Grants.mark]

end Duck

def Findings.Lists (f : Findings) (duckVersion : String) (duck : Duck) : Prop :=
  ∃ ducks, f[duckVersion]? = some ducks ∧ duck ∈ ducks

namespace Census

def seenIn (duckVersion : String) (ss : List Sighting) : List Duck :=
  (ss.filter (·.duckVersion = duckVersion)).map (·.duck)

def firstScope? (duckVersion : String) (i : Identity) (ss : List Sighting) : Option Scope :=
  (ss.find? fun s => s.duckVersion = duckVersion ∧ s.duck.toIdentity = i).map (·.duck.scope)

variable {ss : List Sighting} {v : String} {i : Identity} {scope : Scope} {c c' : Census}

theorem firstScope?_append (v : String) (i : Identity) (a b : List Sighting) :
    firstScope? v i (a ++ b) = (firstScope? v i a).or (firstScope? v i b) := by
  simp only [firstScope?, List.find?_append, Option.map_or]

theorem isSome_firstScope?_iff :
    (firstScope? v i ss).isSome ↔ ∃ s ∈ ss, s.duckVersion = v ∧ s.duck.toIdentity = i := by
  simp [firstScope?]

theorem exists_mem_of_firstScope? (h : firstScope? v i ss = some scope) :
    ∃ duck, ⟨v, duck⟩ ∈ ss ∧ duck.toIdentity = i ∧ duck.scope = scope := by
  obtain ⟨⟨w, duck⟩, hf, hs⟩ := Option.map_eq_some_iff.mp h
  have hp := List.find?_some hf
  simp only [decide_eq_true_eq] at hp
  obtain ⟨rfl, hi⟩ := hp
  exact ⟨duck, List.mem_of_find?_eq_some hf, hi, hs⟩

theorem find?_seenIn (v : String) (i : Identity) (ss : List Sighting) :
    ((seenIn v ss).find? (·.toIdentity = i)).map (·.scope) = firstScope? v i ss := by
  simp only [seenIn, firstScope?, List.find?_map, List.find?_filter, Option.map_map,
    Function.comp_def, Bool.decide_and, Bool.decide_eq_true]

theorem seenIn_concat (v : String) (ss : List Sighting) (s : Sighting) : seenIn v (ss ++ [s]) =
    if s.duckVersion = v then seenIn v ss ++ [s.duck] else seenIn v ss := by
  by_cases h : s.duckVersion = v <;> simp [seenIn, h]

theorem getElem?_collected (ss : List Sighting) (v : String) :
    (collected ss)[v]? = if seenIn v ss = [] then none else some (seenIn v ss) := by
  induction ss using List.reverseRecOn with
  | nil => rfl
  | append_singleton ss s ih =>
    rw [collected, List.foldl_append, List.foldl_cons, List.foldl_nil, ← collected,
      ExtTreeMap.getElem?_alter, seenIn_concat]
    by_cases hv : s.duckVersion = v
    · subst hv
      rw [if_pos (LawfulEqCmp.compare_eq_iff_eq.mpr rfl), if_pos rfl, ih]
      by_cases hn : seenIn s.duckVersion ss = [] <;> simp [hn]
    · rw [if_neg (mt LawfulEqCmp.compare_eq_iff_eq.mp hv), if_neg hv, ih]

theorem getElem?_findings (c : Census) (v : String) : c.findings[v]? =
    if seenIn v c.sightings = [] then none
    else some (Duck.settle c.settings.grants (seenIn v c.sightings)) := by
  rw [findings, ExtTreeMap.getElem?_map, getElem?_collected]
  split <;> rfl

theorem findings_lists_iff {d : Duck} : c.findings.Lists v d ↔
    firstScope? v d.toIdentity c.sightings = some d.scope ∧
      d.accessible = c.settings.grants.allows d.toIdentity := by
  rw [← find?_seenIn, ← Duck.mem_settle_iff]
  simp only [Findings.Lists, getElem?_findings]
  by_cases h : seenIn v c.sightings = []
  · simp [h, Duck.mem_settle_iff]
  · simp [h]

/-- The findings list what was seen. -/
theorem exists_findings_lists_iff_exists_sighting :
    (∃ duck, c.findings.Lists v duck ∧ duck.toIdentity = i) ↔
      ∃ s ∈ c.sightings, s.duckVersion = v ∧ s.duck.toIdentity = i := by
  rw [← isSome_firstScope?_iff, Option.isSome_iff_exists]
  constructor
  · intro h
    obtain ⟨duck, hl, rfl⟩ := h
    exact ⟨duck.scope, (findings_lists_iff.mp hl).1⟩
  · intro h
    obtain ⟨scope, hs⟩ := h
    exact ⟨c.settings.grants.mark { toIdentity := i, scope }, findings_lists_iff.mpr ⟨hs, rfl⟩, rfl⟩

/-- A sighting in one duck version leaves what was found in the others. -/
theorem getElem?_findings_of_sighting {s : Sighting}
    (hs : c'.sightings = c.sightings ++ [s]) (hg : c'.settings = c.settings) {w : String}
    (hw : w ≠ s.duckVersion) : c'.findings[w]? = c.findings[w]? := by
  have hseen : seenIn w c'.sightings = seenIn w c.sightings := by
    simp [hs, seenIn, hw.symm]
  rw [getElem?_findings, getElem?_findings, hseen, hg]

theorem findings_sorted {ducks : List Duck} (h : c.findings[v]? = some ducks) :
    ducks.Pairwise fun a b => a.toIdentity.Precedes b.toIdentity := by
  rw [getElem?_findings] at h
  split at h
  · cases h
  · cases h
    exact Duck.settle_sorted _ _

theorem mem_findings_iff : v ∈ c.findings ↔ ∃ s ∈ c.sightings, s.duckVersion = v := by
  rw [ExtTreeMap.mem_iff_isSome_getElem?, getElem?_findings]
  simp [seenIn]

theorem findings_ne_nil {ducks : List Duck} (h : c.findings[v]? = some ducks) : ducks ≠ [] := by
  have hv : v ∈ c.findings := by
    rw [ExtTreeMap.mem_iff_isSome_getElem?, h]
    rfl
  obtain ⟨s, hs, rfl⟩ := mem_findings_iff.mp hv
  obtain ⟨duck, ⟨_, hd, hm⟩, -⟩ := exists_findings_lists_iff_exists_sighting.mpr ⟨s, hs, rfl, rfl⟩
  cases h.symm.trans hd
  exact List.ne_nil_of_mem hm

theorem isSome_findings_iff : c.findings[v]?.isSome ↔ ∃ duck, c.findings.Lists v duck := by
  constructor
  · intro h
    obtain ⟨ducks, hv⟩ := Option.isSome_iff_exists.mp h
    obtain ⟨duck, hd⟩ := List.exists_mem_of_ne_nil ducks (findings_ne_nil hv)
    exact ⟨duck, ducks, hv, hd⟩
  · intro h
    obtain ⟨duck, ducks, hv, -⟩ := h
    rw [hv]
    rfl

end Census
end DuckCensus
