import DuckCensus.Proofs.Steps
import DuckCensus.Survey

/-! Which definitions a survey picks: of those asked for, the first of each name. -/
namespace DuckCensus
open Std
variable {α : Type}

theorem mem_firstOfEachName {name : α → String} {taken : ExtTreeSet String} {x : α} {xs : List α} :
    x ∈ firstOfEachName name taken xs ↔ name x ∉ taken ∧
      ∃ before after, xs = before ++ x :: after ∧ ∀ y ∈ before, name y ≠ name x := by
  induction xs generalizing taken with
  | nil => simp [firstOfEachName]
  | cons z xs ih =>
    rw [firstOfEachName]
    by_cases hz : name z ∈ taken
    · rw [if_pos hz, ih]
      refine and_congr_right fun hx => ?_
      have hne : name z ≠ name x := fun he => hx (he ▸ hz)
      constructor
      · intro h
        obtain ⟨before, after, rfl, hb⟩ := h
        exact ⟨z :: before, after, rfl, List.forall_mem_cons.mpr ⟨hne, hb⟩⟩
      · intro h
        obtain ⟨before, after, he, hb⟩ := h
        obtain ⟨rfl, h⟩ | ⟨before, rfl, rfl⟩ := List.cons_eq_append_iff.mp he
        · cases h
          exact absurd rfl hne
        · exact ⟨before, after, rfl, (List.forall_mem_cons.mp hb).2⟩
    · rw [if_neg hz, List.mem_cons, ih, ExtTreeSet.mem_insert, LawfulEqCmp.compare_eq_iff_eq]
      constructor
      · intro h
        obtain rfl | ⟨hx, before, after, rfl, hb⟩ := h
        · exact ⟨hz, [], xs, rfl, by simp⟩
        · obtain ⟨hne, hx⟩ := not_or.mp hx
          exact ⟨hx, z :: before, after, rfl, List.forall_mem_cons.mpr ⟨hne, hb⟩⟩
      · intro h
        obtain ⟨hx, before, after, he, hb⟩ := h
        obtain ⟨rfl, h⟩ | ⟨before, rfl, rfl⟩ := List.cons_eq_append_iff.mp he
        · cases h
          exact Or.inl rfl
        · obtain ⟨hne, hb⟩ := List.forall_mem_cons.mp hb
          exact Or.inr ⟨not_or.mpr ⟨hne, hx⟩, before, after, rfl, hb⟩

/-- Being the first of a name among the items that `p` keeps, said of the whole list. -/
theorem first_filter_iff {name : α → String} {p : α → Bool} {x : α} {xs : List α} :
    (∃ before after, xs.filter p = before ++ x :: after ∧ ∀ y ∈ before, name y ≠ name x) ↔
      ∃ before after, xs = before ++ x :: after ∧ p x ∧
        ∀ y ∈ before, p y → name y ≠ name x := by
  constructor
  · intro h
    obtain ⟨before, after, he, hb⟩ := h
    obtain ⟨xs₁, xs₂, rfl, rfl, hx⟩ := List.filter_eq_append_iff.mp he
    obtain ⟨xs₃, xs₄, rfl, hn, hp, -⟩ := List.filter_eq_cons_iff.mp hx
    refine ⟨xs₁ ++ xs₃, xs₄, by simp, hp, ?_⟩
    intro y hm hy
    cases List.mem_append.mp hm with
    | inl hm => exact hb y (List.mem_filter.mpr ⟨hm, hy⟩)
    | inr hm => exact absurd hy (hn y hm)
  · intro h
    obtain ⟨before, after, rfl, hp, hb⟩ := h
    refine ⟨before.filter p, after.filter p, ?_, ?_⟩
    · rw [List.filter_append, List.filter_cons_of_pos hp]
    · intro y hm
      obtain ⟨hm, hy⟩ := List.mem_filter.mp hm
      exact hb y hm hy

namespace Spec

def AsksFor (s : Spec) (d : Definition) : Prop :=
  ∃ text ∈ s.selectors, ∃ selector, Selector.read text = .ok selector ∧
    selector.selects (d.metadata.labels.getD ∅)

/-- The definition is the first of its name among those asked for. A missing name is empty. -/
def Picks (s : Spec) (ds : List Definition) (d : Definition) : Prop :=
  ∃ before after, ds = before ++ d :: after ∧ s.AsksFor d ∧
    ∀ e ∈ before, s.AsksFor e → e.metadata.name.getD "" ≠ d.metadata.name.getD ""

theorem readSelectors_eq_ok_iff {s : Spec} {selectors : List Selector} :
    s.readSelectors = .ok selectors ↔
      List.Forall₂ (fun text selector => Selector.read text = .ok selector)
        s.selectors selectors := by
  rw [readSelectors, mapError_eq_ok_iff, mapM_eq_ok_iff]

theorem asksFor_iff {s : Spec} {selectors : List Selector}
    (h : s.readSelectors = .ok selectors) (d : Definition) :
    s.AsksFor d ↔ selectors.any (·.selects d.labels) := by
  have hf := readSelectors_eq_ok_iff.mp h
  rw [List.any_eq_true, AsksFor, Definition.labels]
  generalize s.selectors = texts at hf
  clear h
  induction hf with
  | nil => simp
  | cons hr _ ih => simp [← ih, hr]

theorem mem_pick_iff {s : Spec} {ds picked : List Definition} (h : s.pick ds = .ok picked)
    (d : Definition) : d ∈ picked ↔ s.Picks ds d := by
  obtain ⟨selectors, hs, rfl⟩ := map_eq_ok_iff.mp h
  have hasks := asksFor_iff hs
  simp only [mem_firstOfEachName, ExtTreeSet.not_mem_empty, not_false_eq_true, true_and,
    first_filter_iff, Picks, hasks, id_eq, Definition.name]

end Spec
end DuckCensus
