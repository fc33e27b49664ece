import DuckCensus.Proofs.Selector.Conjunction
import DuckCensus.Proofs.Survey.Failing

/-! Which definitions a specification picks from a list, place by place. -/
namespace DuckCensus
open Std Text

section Places
variable {α : Type} {x : α} {xs ys : List α}

/-- The items of `xs` in the places where `p` holds are `ys`, in the same order. -/
def Gathers (xs : List α) (p : Fin xs.length → Prop) (ys : List α) : Prop :=
  ∃ places : List (Fin xs.length),
    ys = places.map xs.get ∧ places.Pairwise (· < ·) ∧ ∀ i, i ∈ places ↔ p i

theorem gathers_nil (p : Fin ([] : List α).length → Prop) : Gathers [] p [] :=
  ⟨[], rfl, .nil, fun i => i.elim0⟩

theorem pairwise_map_succ {n : Nat} {places : List (Fin n)} (h : places.Pairwise (· < ·)) :
    (places.map Fin.succ).Pairwise (· < ·) :=
  List.pairwise_map.mpr (h.imp Fin.succ_lt_succ_iff.mpr)

theorem Gathers.skip {p : Fin (x :: xs).length → Prop} (h : Gathers xs (fun i => p i.succ) ys)
    (hp : ¬ p 0) : Gathers (x :: xs) p ys := by
  obtain ⟨places, rfl, hplaces, hm⟩ := h
  refine ⟨places.map Fin.succ, ?_, pairwise_map_succ hplaces, ?_⟩
  · rw [List.map_map]
    rfl
  · intro i
    cases i using Fin.cases with
    | zero => exact iff_of_false (by simp [Fin.succ_ne_zero]) hp
    | succ i => exact (List.mem_map_of_injective fun _ _ => Fin.succ_inj.mp).trans (hm i)

theorem Gathers.keep {p : Fin (x :: xs).length → Prop} (h : Gathers xs (fun i => p i.succ) ys)
    (hp : p 0) : Gathers (x :: xs) p (x :: ys) := by
  obtain ⟨places, rfl, hplaces, hm⟩ := h
  refine ⟨0 :: places.map Fin.succ, ?_, List.pairwise_cons.mpr ⟨?_, pairwise_map_succ hplaces⟩, ?_⟩
  · rw [List.map_cons, List.map_map]
    rfl
  · simp
  · intro i
    cases i using Fin.cases with
    | zero => exact iff_of_true List.mem_cons_self hp
    | succ i =>
      rw [List.mem_cons, or_iff_right (Fin.succ_ne_zero i)]
      exact (List.mem_map_of_injective fun _ _ => Fin.succ_inj.mp).trans (hm i)

def Leads (name : α → String) (kept : α → Prop) (taken : ExtTreeSet String) (xs : List α)
    (i : Fin xs.length) : Prop :=
  kept xs[i] ∧ name xs[i] ∉ taken ∧ ∀ j < i, kept xs[j] → name xs[j] ≠ name xs[i]

variable {name : α → String} {kept : α → Prop} {taken : ExtTreeSet String}

theorem leads_zero : Leads name kept taken (x :: xs) 0 ↔ kept x ∧ name x ∉ taken := by
  simp [Leads]

theorem leads_succ {i : Fin xs.length} : Leads name kept taken (x :: xs) i.succ ↔
    (kept x → name x ≠ name xs[i]) ∧ Leads name kept taken xs i := by
  constructor
  · intro h
    obtain ⟨hi, ht, hb⟩ := h
    exact ⟨hb 0 (Fin.succ_pos i), hi, ht, fun j hj => hb j.succ (Fin.succ_lt_succ_iff.mpr hj)⟩
  · intro h
    obtain ⟨hx, hi, ht, hb⟩ := h
    refine ⟨hi, ht, ?_⟩
    intro j hj
    cases j using Fin.cases with
    | zero => exact hx
    | succ j => exact hb j (Fin.succ_lt_succ_iff.mp hj)

/-! What is behind an item that is left out or kept. -/

theorem leads_succ_of_not_kept {i : Fin xs.length} (h : ¬ kept x) :
    Leads name kept taken (x :: xs) i.succ ↔ Leads name kept taken xs i := by
  rw [leads_succ]
  exact and_iff_right fun hk => absurd hk h

theorem leads_succ_of_taken {i : Fin xs.length} (h : name x ∈ taken) :
    Leads name kept taken (x :: xs) i.succ ↔ Leads name kept taken xs i := by
  rw [leads_succ]
  exact and_iff_right_of_imp fun hl _ he => hl.2.1 (he ▸ h)

theorem leads_succ_of_kept {i : Fin xs.length} (h : kept x) :
    Leads name kept taken (x :: xs) i.succ ↔ Leads name kept (taken.insert (name x)) xs i := by
  rw [leads_succ, Leads, Leads, ExtTreeSet.mem_insert, LawfulEqCmp.compare_eq_iff_eq, not_or]
  tauto

theorem Gathers.congr {p q : Fin xs.length → Prop} (hp : Gathers xs p ys) (h : ∀ i, q i ↔ p i) :
    Gathers xs q ys := by
  obtain ⟨places, hys, hplaces, hm⟩ := hp
  exact ⟨places, hys, hplaces, fun i => (hm i).trans (h i).symm⟩

/-- Keeping the first of each name keeps what is in the leading places. -/
theorem gathers_firstOfEachName (name : α → String) (kept : α → Bool)
    (taken : ExtTreeSet String) (xs : List α) :
    Gathers xs (Leads name (kept ·) taken xs) (firstOfEachName name taken (xs.filter kept)) := by
  induction xs generalizing taken with
  | nil => exact gathers_nil _
  | cons x xs ih =>
    by_cases hk : kept x
    · rw [List.filter_cons_of_pos hk, firstOfEachName]
      by_cases ht : name x ∈ taken
      · -- the name that is taken is already kept from the items behind
        rw [if_pos ht]
        exact .skip ((ih taken).congr fun _ => leads_succ_of_taken ht)
          fun h => (leads_zero.mp h).2 ht
      · rw [if_neg ht]
        exact .keep ((ih (taken.insert (name x))).congr fun _ => leads_succ_of_kept hk)
          (leads_zero.mpr ⟨hk, ht⟩)
    · rw [List.filter_cons_of_neg hk]
      exact .skip ((ih taken).congr fun _ => leads_succ_of_not_kept hk)
        fun h => hk (leads_zero.mp h).1

end Places

namespace Spec
variable {s : Spec} {ds : List Definition}

def LeadsAt (s : Spec) (ds : List Definition) (i : Fin ds.length) : Prop :=
  s.AsksFor ds[i] ∧ ∀ j < i, s.AsksFor ds[j] → ds[j].name ≠ ds[i].name

theorem gathers_pick {picked : List Definition} (h : s.pick ds = .ok picked) :
    Gathers ds (s.LeadsAt ds) picked := by
  obtain ⟨selectors, hs, rfl⟩ := map_eq_ok_iff.mp h
  refine (gathers_firstOfEachName _ _ ∅ ds).congr fun i => ?_
  simp only [LeadsAt, Leads, asksFor_iff hs, ExtTreeSet.not_mem_empty, not_false_eq_true, true_and,
    id_eq]

/-- No two places lead with one name. -/
theorem nodup_names_of_gathers {picked : List Definition} (h : Gathers ds (s.LeadsAt ds) picked) :
    (picked.map (·.name)).Nodup := by
  obtain ⟨places, rfl, hplaces, hm⟩ := h
  rw [List.map_map, List.Nodup, List.pairwise_map]
  refine hplaces.imp_of_mem ?_
  intro i j hi hj hij
  exact ((hm j).mp hj).2 i hij ((hm i).mp hi).1

/-- A place that does not lead with its name has one before it that does. -/
theorem exists_leadsAt (i : Fin ds.length) (h : s.AsksFor ds[i]) :
    ∃ j, s.LeadsAt ds j ∧ ds[j].name = ds[i].name := by
  by_cases hb : ∃ j < i, s.AsksFor ds[j] ∧ ds[j].name = ds[i].name
  · obtain ⟨j, hj, ha, hn⟩ := hb
    obtain ⟨k, hk, hkn⟩ := exists_leadsAt j ha
    exact ⟨k, hk, hkn.trans hn⟩
  · refine ⟨i, ⟨h, ?_⟩, rfl⟩
    intro j hj ha hn
    exact hb ⟨j, hj, ha, hn⟩
termination_by i.val

theorem exists_mem_of_gathers {picked : List Definition} (h : Gathers ds (s.LeadsAt ds) picked)
    {d : Definition} (hd : d ∈ ds) (ha : s.AsksFor d) : ∃ e ∈ picked, e.name = d.name := by
  obtain ⟨places, rfl, -, hm⟩ := h
  obtain ⟨i, rfl⟩ := List.get_of_mem hd
  obtain ⟨j, hj, hn⟩ := exists_leadsAt i ha
  exact ⟨ds[j], List.mem_map.mpr ⟨j, (hm j).mpr hj, rfl⟩, hn⟩

/-- What is picked depends on what is asked for only. -/
theorem pick_congr {s' : Spec} {selectors selectors' : List Selector}
    (hs : s.readSelectors = .ok selectors) (hs' : s'.readSelectors = .ok selectors')
    (h : ∀ d, s'.AsksFor d ↔ s.AsksFor d) (ds : List Definition) : s'.pick ds = s.pick ds := by
  have hany (d : Definition) : selectors'.any (·.selects d.labels) =
      selectors.any (·.selects d.labels) := by
    rw [Bool.eq_iff_iff, ← asksFor_iff hs, ← asksFor_iff hs', h]
  rw [pick, pick, pickBy, pickBy, hs, hs']
  simp only [Except.map, hany]

/-- A text whose pieces are all blank asks for every definition. -/
theorem asksFor_of_blank {text : String} (ht : text ∈ s.selectors)
    (hb : ∀ p ∈ Selector.pieces 0 text.toList, allBlank p) (d : Definition) : s.AsksFor d :=
  ⟨text, ht, ⟨[]⟩, (Selector.vacant_of_pieces hb).read, rfl⟩

/-- The first selector that cannot be read is the failure, whatever the definitions are. Else the
picked definitions stand in those places of the list whose definition is asked for and has a name
that none asked for before it has: one of every name that is asked for, in the order of the list.
Only the set of the selectors matters; no selectors ask for nothing, and one whose pieces are all
blank asks for everything. -/
theorem pick_leading_places (s : Spec) :
    (∀ ds failure, s.pick ds = .error failure ↔
      ∃ fault, FirstFails Selector.read s.selectors fault ∧ failure = .invalidSelector fault) ∧
    (∀ ds, (∃ failure, s.pick ds = .error failure) ↔
      ∃ text ∈ s.selectors, ∃ fault, Selector.read text = .error fault) ∧
    ((∀ text ∈ s.selectors, ∃ selector, Selector.read text = .ok selector) → ∀ ds,
      (∃ picked, s.pick ds = .ok picked ∧ Gathers ds (s.LeadsAt ds) picked ∧
        (picked.map (·.name)).Nodup ∧
        ∀ d ∈ ds, s.AsksFor d → ∃ e ∈ picked, e.name = d.name) ∧
      ∀ s' : Spec, (∀ text, text ∈ s'.selectors ↔ text ∈ s.selectors) →
        s'.pick ds = s.pick ds) ∧
    (s.selectors = [] → ∀ ds, s.pick ds = .ok []) ∧
    ∀ text ∈ s.selectors, (∀ p ∈ Selector.pieces 0 text.toList, allBlank p) →
      ∀ d, s.AsksFor d := by
  have herror (ds : List Definition) (failure : Failure) : s.pick ds = .error failure ↔
      ∃ fault, FirstFails Selector.read s.selectors fault ∧ failure = .invalidSelector fault := by
    rw [pick, pickBy, map_eq_error_iff, readSelectors_eq_error_iff]
  refine ⟨herror, ?_, ?_, ?_, fun text ht hb => asksFor_of_blank ht hb⟩
  · intro ds
    rw [← exists_firstFails_iff]
    simp only [herror]
    rw [exists_comm]
    simp only [exists_and_left, exists_eq, and_true]
  · intro hread ds
    obtain ⟨selectors, hs⟩ := exists_readSelectors_iff.mpr hread
    have hp : ∃ picked, s.pick ds = .ok picked := ⟨_, map_eq_ok_iff.mpr ⟨selectors, hs, rfl⟩⟩
    obtain ⟨picked, hp⟩ := hp
    have hg := gathers_pick hp
    refine ⟨⟨picked, hp, hg, nodup_names_of_gathers hg, fun d => exists_mem_of_gathers hg⟩, ?_⟩
    intro s' hsame
    have hread' : ∀ text ∈ s'.selectors, ∃ selector, Selector.read text = .ok selector :=
      fun text ht => hread text ((hsame text).mp ht)
    obtain ⟨selectors', hs'⟩ := exists_readSelectors_iff.mpr hread'
    exact pick_congr hs hs' (by simp only [AsksFor, hsame, implies_true]) ds
  · intro hnone ds
    rw [pick, pickBy, readSelectors, hnone]
    simp [Except.map, Except.mapError, pure, Except.pure, firstOfEachName]

def birdSpec (selectors : List String) : Spec where
  group := "pond.org"
  names := ⟨"Goose", "geese", ""⟩
  versions := []
  selectors := selectors

def bird (name : Option String) (labels : Option Labels) (kind : String) : Definition where
  metadata := { name, labels }
  group := "pond.org"
  scope := .namespaced
  kind := kind
  versions := []

-- The first definition is not asked for and so leaves its name to the second. The third and the
-- last come too late, the last because no name is the empty name.
def flock : List Definition :=
  [bird "x" none "Crow", bird "x" (some (.ofList [("bird", "yes")])) "Goose",
    bird "x" (some (.ofList [("bird", "no")])) "Swan", bird none (some (.ofList [("bird", "no")]))
      "Gosling", bird (some "") (some (.ofList [("bird", "yes")])) "Cygnet"]

theorem pick_leading_places_flock :
    Gathers flock ((birdSpec ["bird=yes", "bird"]).LeadsAt flock) [flock[1], flock[3]] ∧
    (birdSpec ["bird", "bird=yes", "bird"]).pick flock =
      (birdSpec ["bird=yes", "bird"]).pick flock ∧
    (birdSpec []).pick flock = .ok [] ∧
    ∀ d, (birdSpec ["bird", " , "]).AsksFor d := by
  obtain ⟨-, -, hpick, -⟩ := pick_leading_places (birdSpec ["bird=yes", "bird"])
  obtain ⟨-, -, -, hnone, -⟩ := pick_leading_places (birdSpec [])
  obtain ⟨-, -, -, -, hblank⟩ := pick_leading_places (birdSpec ["bird", " , "])
  have hread : ∀ text ∈ ["bird=yes", "bird"], ∃ selector, Selector.read text = .ok selector := by
    simp only [List.forall_mem_cons]
    exact ⟨⟨⟨[.equals "bird" "yes"]⟩, by decide +kernel⟩, ⟨⟨[.present "bird"]⟩, by decide +kernel⟩,
      List.forall_mem_nil _⟩
  obtain ⟨⟨picked, hp, hg, -, -⟩, hsame⟩ := hpick hread flock
  refine ⟨?_, hsame (birdSpec ["bird", "bird=yes", "bird"]) ?_, hnone rfl flock,
    hblank " , " (by decide) (by decide +kernel)⟩
  · have hflock : (birdSpec ["bird=yes", "bird"]).pick flock = .ok [flock[1], flock[3]] := by
      decide +kernel
    cases hp.symm.trans hflock
    exact hg
  · intro text
    simp only [birdSpec, List.mem_cons, List.not_mem_nil]
    tauto

end Spec
end DuckCensus
