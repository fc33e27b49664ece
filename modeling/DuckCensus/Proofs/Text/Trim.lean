import DuckCensus.Text.Cut
import Mathlib.Data.List.TakeWhile

/-! A trimmed text is what stands between the white space at the two ends, and there is only one
such text. -/
namespace DuckCensus.Text

def Trimmed (cs : List Char) : Prop :=
  (∀ c ∈ cs.head?, isBlank c = false) ∧ ∀ c ∈ cs.getLast?, isBlank c = false

theorem ne_of_isBlank {c m : Char} (hc : isBlank c) (hm : isBlank m = false) : c ≠ m := by
  rintro rfl
  rw [hm] at hc
  cases hc

theorem allBlank_iff {cs : List Char} : allBlank cs ↔ ∀ c ∈ cs, isBlank c := List.all_eq_true

theorem not_mem_of_allBlank {w : List Char} (h : allBlank w) {c : Char} (hc : isBlank c = false) :
    c ∉ w := by
  intro hm
  exact ne_of_isBlank (allBlank_iff.mp h c hm) hc rfl

theorem allBlank_append {a b : List Char} : allBlank (a ++ b) ↔ allBlank a ∧ allBlank b := by
  simp [allBlank]

theorem allBlank_reverse {cs : List Char} : allBlank cs.reverse ↔ allBlank cs := by
  simp [allBlank]

theorem trimmed_of_forall {cs : List Char} (h : ∀ c ∈ cs, isBlank c = false) : Trimmed cs :=
  ⟨fun c hc => h c (List.mem_of_head? hc), fun c hc => h c (List.mem_of_getLast? hc)⟩

theorem trimmed_singleton {c : Char} (h : isBlank c = false) : Trimmed [c] :=
  trimmed_of_forall fun d hd => by rwa [List.mem_singleton.mp hd]

theorem Trimmed.reverse {cs : List Char} (h : Trimmed cs) : Trimmed cs.reverse := by
  unfold Trimmed
  rw [List.head?_reverse, List.getLast?_reverse]
  exact ⟨h.2, h.1⟩

theorem trimStart_append {a cs : List Char} (ha : allBlank a)
    (hc : ∀ c ∈ cs.head?, isBlank c = false) : trimStart (a ++ cs) = cs := by
  rw [trimStart, List.dropWhile_append_of_pos (allBlank_iff.mp ha)]
  cases cs with
  | nil => rfl
  | cons c cs => simp [hc c rfl]

theorem exists_eq_append_trimStart (cs : List Char) : ∃ a, allBlank a ∧ cs = a ++ trimStart cs := by
  refine ⟨cs.takeWhile isBlank, ?_, List.takeWhile_append_dropWhile.symm⟩
  exact allBlank_iff.mpr fun c => List.mem_takeWhile_imp

theorem isBlank_head?_trimStart (cs : List Char) :
    ∀ c ∈ (trimStart cs).head?, isBlank c = false := by
  intro c hc
  have h := List.head?_dropWhile_not isBlank cs
  rw [show (cs.dropWhile isBlank).head? = some c from hc] at h
  simpa using h

theorem trim_append {a t b : List Char} (ha : allBlank a) (ht : Trimmed t) (hb : allBlank b) :
    trim (a ++ t ++ b) = t := by
  have hr : trimStart (b.reverse ++ t.reverse) = t.reverse :=
    trimStart_append (allBlank_reverse.mpr hb) ht.reverse.1
  cases t with
  | nil =>
    have hab : trimStart (a ++ b ++ []) = [] :=
      trimStart_append (allBlank_append.mpr ⟨ha, hb⟩) (by simp)
    rw [List.append_nil] at hab
    rw [trim, List.append_nil, hab]
    rfl
  | cons c t =>
    rw [List.append_assoc, trim, trimStart_append ha (by simpa using ht.1), trimEnd,
      List.reverse_append, hr, List.reverse_reverse]

theorem trim_of_trimmed {t : List Char} (ht : Trimmed t) : trim t = t := by
  simpa using trim_append (a := []) (b := []) rfl ht rfl

theorem exists_trimStart_eq (cs : List Char) : ∃ b, allBlank b ∧ trimStart cs = trim cs ++ b := by
  obtain ⟨b, hb, hr⟩ := exists_eq_append_trimStart (trimStart cs).reverse
  refine ⟨b.reverse, allBlank_reverse.mpr hb, ?_⟩
  rw [trim, trimEnd, ← List.reverse_append, ← hr, List.reverse_reverse]

theorem exists_eq_append_trim (cs : List Char) :
    ∃ a b, allBlank a ∧ allBlank b ∧ cs = a ++ trim cs ++ b := by
  obtain ⟨a, ha, he⟩ := exists_eq_append_trimStart cs
  obtain ⟨b, hb, hs⟩ := exists_trimStart_eq cs
  exact ⟨a, b, ha, hb, by rw [List.append_assoc, ← hs, ← he]⟩

theorem trimmed_trim (cs : List Char) : Trimmed (trim cs) := by
  constructor
  · intro c hc
    obtain ⟨b, -, hs⟩ := exists_trimStart_eq cs
    refine isBlank_head?_trimStart cs c ?_
    rw [hs, List.head?_append, hc]
    rfl
  · rw [trim, trimEnd, List.getLast?_reverse]
    exact isBlank_head?_trimStart _

theorem Trimmed.left_eq_nil {a cs : List Char} (h : Trimmed (a ++ cs)) (ha : allBlank a) :
    a = [] := by
  cases a with
  | nil => rfl
  | cons c a =>
    have hc : isBlank c = false := h.1 c rfl
    exact absurd (allBlank_iff.mp ha c List.mem_cons_self) (by simp [hc])

theorem Trimmed.right_eq_nil {cs b : List Char} (h : Trimmed (cs ++ b)) (hb : allBlank b) :
    b = [] := by
  have hr := h.reverse
  rw [List.reverse_append] at hr
  exact List.reverse_eq_nil_iff.mp (hr.left_eq_nil (allBlank_reverse.mpr hb))

theorem trim_eq_nil_iff {cs : List Char} : trim cs = [] ↔ allBlank cs := by
  constructor
  · intro h
    obtain ⟨a, b, ha, hb, he⟩ := exists_eq_append_trim cs
    rw [h, List.append_nil] at he
    rw [he]
    exact allBlank_append.mpr ⟨ha, hb⟩
  · intro h
    simpa using trim_append (t := []) (b := []) h ⟨by simp, by simp⟩ rfl

theorem trim_infix_self (cs : List Char) : trim cs <:+: cs := by
  obtain ⟨a, b, -, -, he⟩ := exists_eq_append_trim cs
  exact ⟨a, b, he.symm⟩

theorem trim_subset (cs : List Char) : trim cs ⊆ cs := (trim_infix_self cs).subset

/-- Only white space is trimmed off. -/
theorem mem_trim_iff {c : Char} (hc : isBlank c = false) (cs : List Char) :
    c ∈ trim cs ↔ c ∈ cs := by
  constructor
  · intro h
    exact trim_subset cs h
  · intro h
    obtain ⟨a, b, ha, hb, he⟩ := exists_eq_append_trim cs
    rw [he, List.mem_append, List.mem_append] at h
    obtain (h | h) | h := h
    · exact absurd h (not_mem_of_allBlank ha hc)
    · exact h
    · exact absurd h (not_mem_of_allBlank hb hc)

theorem Trimmed.append {a b : List Char} (ha : Trimmed a) (hb : Trimmed b) :
    Trimmed (a ++ b) := by
  constructor
  · intro c hc
    rw [List.head?_append, Option.mem_def, Option.or_eq_some_iff] at hc
    obtain hc | ⟨-, hc⟩ := hc
    · exact ha.1 c hc
    · exact hb.1 c hc
  · intro c hc
    rw [List.getLast?_append, Option.mem_def, Option.or_eq_some_iff] at hc
    obtain hc | ⟨-, hc⟩ := hc
    · exact hb.2 c hc
    · exact ha.2 c hc

theorem Trimmed.enclose {a : List Char} {z : Char} (ha : Trimmed a) (hne : a ≠ [])
    (hz : isBlank z = false) (m : List Char) : Trimmed (a ++ m ++ [z]) := by
  obtain ⟨x, xs, rfl⟩ := List.exists_cons_of_ne_nil hne
  constructor
  · intro c hc
    exact ha.1 c hc
  · intro c hc
    rw [List.getLast?_concat] at hc
    cases hc
    exact hz

theorem firstWord_append {k v : List Char} (hk : ∀ c ∈ k, isBlank c = false) (hv : allBlank v)
    (hne : v ≠ []) (rest : List Char) : firstWord (k ++ v ++ rest) = k := by
  cases v with
  | nil => exact absurd rfl hne
  | cons c v =>
    have hc := allBlank_iff.mp hv c List.mem_cons_self
    rw [firstWord, List.append_assoc, List.takeWhile_append_of_pos (by simpa using hk)]
    simp [hc]

theorem afterFirstWord_append {k v : List Char} (hk : ∀ c ∈ k, isBlank c = false)
    (hv : allBlank v) (hne : v ≠ []) (rest : List Char) :
    afterFirstWord (k ++ v ++ rest) = v ++ rest := by
  have h := firstWord_append_afterFirstWord (k ++ v ++ rest)
  rw [firstWord_append hk hv hne] at h
  exact List.append_cancel_left (h.trans (List.append_assoc k v rest))

theorem trimmed_firstWord (cs : List Char) : Trimmed (firstWord cs) :=
  trimmed_of_forall fun c hc => by simpa using List.mem_takeWhile_imp hc

/-- The text behind the first word is empty or begins with white space. -/
theorem exists_eq_append_trimStart_afterFirstWord {cs : List Char}
    (h : trimStart (afterFirstWord cs) ≠ []) :
    ∃ v, allBlank v ∧ v ≠ [] ∧ afterFirstWord cs = v ++ trimStart (afterFirstWord cs) := by
  obtain ⟨v, hv, he⟩ := exists_eq_append_trimStart (afterFirstWord cs)
  refine ⟨v, hv, ?_, he⟩
  intro hn
  rw [hn, List.nil_append] at he
  obtain ⟨c, rest, hc⟩ := List.exists_cons_of_ne_nil h
  have hstart := isBlank_head?_trimStart (afterFirstWord cs) c (by rw [hc]; rfl)
  have hword := List.head?_dropWhile_not (!isBlank ·) cs
  have hdrop : cs.dropWhile (!isBlank ·) = c :: rest := he.trans hc
  rw [hdrop] at hword
  simp [hstart] at hword

end DuckCensus.Text
