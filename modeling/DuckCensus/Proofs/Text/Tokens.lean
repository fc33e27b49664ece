import DuckCensus.Proofs.Text.Trim
import DuckCensus.Text.Cut

/-! The set of items that a list written with commas stands for, and the items that can be written
so. -/
namespace DuckCensus.Text
open Std

theorem mem_items_iff {cs item : List Char} :
    item ∈ items cs ↔ item ≠ [] ∧ ∃ raw ∈ cs.splitOn ',', trim raw = item := by
  simp [items, and_comm]

theorem toList_mem_items_iff {cs : List Char} {token : String} : token.toList ∈ items cs ↔
    token ≠ "" ∧ ∃ part ∈ cs.splitOn ',', trim part = token.toList := by
  rw [mem_items_iff, ne_eq, String.toList_eq_nil_iff]

theorem mem_tokens_iff {cs : List Char} {token : String} :
    token ∈ tokens cs ↔ token.toList ∈ items cs := by
  rw [tokens, ExtTreeSet.mem_ofList, List.contains_iff_mem, List.mem_map]
  constructor
  · intro h
    obtain ⟨item, hi, rfl⟩ := h
    rwa [String.toList_ofList]
  · intro h
    exact ⟨token.toList, h, String.ofList_toList⟩

theorem eq_tokens_iff {cs : List Char} {listed : ExtTreeSet String} :
    listed = tokens cs ↔ ∀ token : String, token ∈ listed ↔ token.toList ∈ items cs := by
  simp only [← mem_tokens_iff]
  exact ⟨fun h token => by rw [h], ExtTreeSet.ext_mem⟩

theorem tokens_eq_empty_iff {cs : List Char} : tokens cs = ∅ ↔ items cs = [] := by
  constructor
  · intro h
    by_contra hne
    obtain ⟨item, hi⟩ := List.exists_mem_of_ne_nil _ hne
    have hm : String.ofList item ∈ tokens cs := by
      rwa [mem_tokens_iff, String.toList_ofList]
    rw [h] at hm
    exact ExtTreeSet.not_mem_empty hm
  · intro h
    rw [tokens, h]
    rfl

theorem of_mem_splitOn {m : Char} {cs part : List Char} (h : part ∈ cs.splitOn m) :
    m ∉ part ∧ part ⊆ cs := by
  induction cs generalizing part with
  | nil =>
    rw [List.splitOn_nil, List.mem_singleton] at h
    rw [h]
    exact ⟨List.not_mem_nil, List.nil_subset _⟩
  | cons c cs ih =>
    obtain ⟨p, ps, hp⟩ := List.exists_cons_of_ne_nil (List.splitOn_ne_nil m cs)
    rw [List.splitOn_cons_eq_if_modifyHead] at h
    rw [hp] at h ih
    by_cases hc : c == m
    · rw [if_pos hc, List.mem_cons] at h
      cases h with
      | inl h => exact ⟨by simp [h], by simp [h]⟩
      | inr h => exact ⟨(ih h).1, List.subset_cons_of_subset c (ih h).2⟩
    · rw [if_neg hc, List.modifyHead_cons, List.mem_cons] at h
      cases h with
      | inl h =>
        obtain ⟨hm, hs⟩ := ih List.mem_cons_self
        have hne : m ≠ c := fun he => hc (by simp [he])
        rw [h]
        exact ⟨List.not_mem_cons_of_ne_of_not_mem hne hm, List.cons_subset_cons c hs⟩
      | inr h =>
        obtain ⟨hm, hs⟩ := ih (List.mem_cons_of_mem p h)
        exact ⟨hm, List.subset_cons_of_subset c hs⟩

theorem of_mem_items {cs item : List Char} (h : item ∈ items cs) :
    item ≠ [] ∧ Trimmed item ∧ ',' ∉ item ∧ item ⊆ cs := by
  obtain ⟨hne, raw, hr, rfl⟩ := mem_items_iff.mp h
  obtain ⟨hm, hs⟩ := of_mem_splitOn hr
  exact ⟨hne, trimmed_trim raw, fun hc => hm (trim_subset raw hc),
    List.Subset.trans (trim_subset raw) hs⟩

/-- Items are written as they are if they are not empty, trimmed and without commas. -/
theorem items_intercalate {parts : List (List Char)} (hne : parts ≠ [])
    (h : ∀ part ∈ parts, part ≠ [] ∧ Trimmed part ∧ ',' ∉ part) :
    items ([','].intercalate parts) = parts := by
  have hmap : parts.map trim = parts := by
    have hid : parts.map trim = parts.map id :=
      List.map_congr_left fun part hp => trim_of_trimmed (h part hp).2.1
    rw [hid, List.map_id]
  rw [items, List.splitOn_intercalate ',' (fun part hp => (h part hp).2.2) hne, hmap]
  exact List.filter_eq_self.mpr fun part hp => by simpa using (h part hp).1

theorem mem_of_mem_intercalate {m c : Char} {parts : List (List Char)}
    (h : c ∈ [m].intercalate parts) : c = m ∨ ∃ part ∈ parts, c ∈ part := by
  induction parts with
  | nil => cases h
  | cons part parts ih =>
    cases parts with
    | nil =>
      rw [List.intercalate_singleton] at h
      exact .inr ⟨part, List.mem_cons_self, h⟩
    | cons next parts =>
      rw [List.intercalate_cons_cons, List.mem_append, List.mem_append, List.mem_singleton] at h
      obtain (h | h) | h := h
      · exact .inr ⟨part, List.mem_cons_self, h⟩
      · exact .inl h
      · obtain h | ⟨found, hf, hc⟩ := ih h
        · exact .inl h
        · exact .inr ⟨found, List.mem_cons_of_mem part hf, hc⟩

/-- Every part stands in the joined text. -/
theorem infix_intercalate {separator part : List Char} {parts : List (List Char)}
    (h : part ∈ parts) : part <:+: separator.intercalate parts := by
  induction parts with
  | nil => cases h
  | cons first parts ih =>
    cases parts with
    | nil =>
      obtain rfl := List.mem_singleton.mp h
      simp [List.intercalate_singleton]
    | cons next parts =>
      rw [List.intercalate_cons_cons]
      obtain rfl | h := List.mem_cons.mp h
      · rw [List.append_assoc]
        exact (List.prefix_append _ _).isInfix
      · exact (ih h).trans (List.suffix_append _ _).isInfix

end DuckCensus.Text
