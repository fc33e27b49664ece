import DuckCensus.Text.Cut
import Mathlib.Data.List.Infix

/-! Where a text is cut at a mark. -/
namespace DuckCensus.Text

theorem behind?_eq_none_iff {start cs : List Char} : behind? start cs = none ↔ ¬ start <+: cs := by
  constructor
  · intro h hp
    obtain ⟨rest, rfl⟩ := hp
    rw [behind?_eq_some_iff.mpr rfl] at h
    cases h
  · intro h
    cases hb : behind? start cs with
    | none => rfl
    | some rest => exact absurd ⟨rest, (behind?_eq_some_iff.mp hb).symm⟩ h

theorem behind?_append (start rest : List Char) : behind? start (start ++ rest) = some rest :=
  behind?_eq_some_iff.mpr rfl

theorem cutAt?_eq_none_iff {mark cs : List Char} (hm : mark ≠ []) :
    cutAt? mark cs = none ↔ ¬ mark <:+: cs := by
  induction cs with
  | nil => simp [cutAt?, hm]
  | cons c cs ih =>
    rw [List.infix_cons_iff, not_or, ← behind?_eq_none_iff, ← ih, cutAt?]
    cases behind? mark (c :: cs) <;> simp

theorem cutAt?_singleton_eq_none_iff {m : Char} {cs : List Char} :
    cutAt? [m] cs = none ↔ m ∉ cs := by
  rw [cutAt?_eq_none_iff (List.cons_ne_nil m []), List.singleton_infix_iff]

theorem cutAt?_eq_none_of_not_mem {m : Char} {mark cs : List Char} (hm : m ∈ mark) (hc : m ∉ cs) :
    cutAt? mark cs = none :=
  (cutAt?_eq_none_iff (List.ne_nil_of_mem hm)).mpr fun hi => hc (hi.subset hm)

theorem infix_append_iff {m : Char} {mark before after : List Char} (h : m ∉ before) :
    m :: mark <:+: before ++ after ↔ m :: mark <:+: after := by
  induction before with
  | nil => rfl
  | cons b before ih =>
    obtain ⟨hb, hn⟩ := List.ne_and_not_mem_of_not_mem_cons h
    rw [List.cons_append, List.infix_cons_iff, List.cons_prefix_cons, ih hn]
    exact ⟨fun hi => hi.resolve_left fun hp => hb hp.1, .inr⟩

/-- The first occurrence is found if the text before it holds no start of one. -/
theorem cutAt?_append {m : Char} {before : List Char} (h : m ∉ before)
    (mark after : List Char) :
    cutAt? (m :: mark) (before ++ (m :: mark ++ after)) = some (before, after) := by
  induction before with
  | nil =>
    have hb := behind?_append (m :: mark) after
    rw [List.nil_append, List.cons_append, cutAt?]
    rw [List.cons_append] at hb
    rw [hb]
  | cons b before ih =>
    obtain ⟨hb, hn⟩ := List.ne_and_not_mem_of_not_mem_cons h
    have hnone : behind? (m :: mark) (b :: (before ++ (m :: mark ++ after))) = none := by
      rw [behind?, if_neg hb]
    rw [List.cons_append, cutAt?, hnone, ih hn]
    rfl

/-- Two texts that are the same up to their first mark and behind it are the same, and no others. -/
theorem append_cons_inj {m : Char} {a a' b b' : List Char} (ha : m ∉ a) (ha' : m ∉ a') :
    a ++ m :: b = a' ++ m :: b' ↔ a = a' ∧ b = b' := by
  have hcut : cutAt? [m] (a ++ m :: b) = some (a, b) := cutAt?_append ha [] b
  have hcut' : cutAt? [m] (a' ++ m :: b') = some (a', b') := cutAt?_append ha' [] b'
  constructor
  · intro h
    rw [h, hcut'] at hcut
    cases hcut
    exact ⟨rfl, rfl⟩
  · rintro ⟨rfl, rfl⟩
    rfl

end DuckCensus.Text
