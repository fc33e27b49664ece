import DuckCensus.Text.Casing

/-! Lowercasing leaves digits and the signs before the letters alone and makes none of them, so a
text can be cut at such a sign before or after. -/
namespace DuckCensus.Text

/-- The characters before the letters, which are nobody's lowercase form but their own. -/
def BeforeLetters (c : Char) : Prop := 0 < c.toNat ∧ c.toNat < 0x41

instance : DecidablePred BeforeLetters := fun _ => inferInstanceAs (Decidable (_ ∧ _))

theorem caseRuns_above : ∀ run ∈ caseRuns, 0x41 ≤ run.first ∧ 0x61 ≤ run.lowered := by
  decide +kernel

theorem lowerChar_of_beforeLetters {c : Char} (h : BeforeLetters c) : lowerChar c = [c] := by
  have hdot : c ≠ '\u0130' := by
    rintro rfl
    exact absurd h.2 (by decide)
  have hfind : caseRuns.find? (·.covers c.toNat) = none := by
    apply List.find?_eq_none.mpr
    intro run hr hc
    have hfirst := (caseRuns_above run hr).1
    have hle : run.first ≤ c.toNat := by
      simp only [CaseRun.covers, Bool.and_eq_true, decide_eq_true_eq] at hc
      exact hc.1.1
    have hc := h.2
    omega
  rw [lowerChar, if_neg hdot, hfind]

/-- A number that is no code point is read as zero. -/
theorem toNat_ofNat_eq_or (n : Nat) : (Char.ofNat n).toNat = n ∨ (Char.ofNat n).toNat = 0 := by
  by_cases hvalid : n.isValidChar
  · rw [Char.ofNat, dif_pos hvalid]
    exact Or.inl rfl
  · rw [Char.ofNat, dif_neg hvalid]
    exact Or.inr rfl

/-- What a character is lowered to has a code point of its own or one behind the capitals. -/
theorem eq_of_mem_lowerChar {c m : Char} (hm : BeforeLetters m) (h : m ∈ lowerChar c) : c = m := by
  rw [lowerChar] at h
  by_cases hdot : c = '\u0130'
  · rw [if_pos hdot, List.mem_cons, List.mem_singleton] at h
    obtain rfl | rfl := h
    · exact absurd hm.2 (by decide)
    · exact absurd hm.2 (by decide)
  rw [if_neg hdot] at h
  cases hf : caseRuns.find? (·.covers c.toNat) with
  | none =>
    rw [hf] at h
    exact (List.mem_singleton.mp h).symm
  | some run =>
    rw [hf] at h
    obtain rfl := List.mem_singleton.mp h
    have hlow := (caseRuns_above run (List.mem_of_find?_eq_some hf)).2
    have hval := toNat_ofNat_eq_or (run.lower c.toNat)
    have hlower : run.lowered ≤ run.lower c.toNat := Nat.le_add_right _ _
    obtain ⟨hpos, hlt⟩ := hm
    omega

theorem lowerChar_ne_nil (c : Char) : lowerChar c ≠ [] := by
  rw [lowerChar]
  split
  · exact List.cons_ne_nil _ _
  · split
    · exact List.cons_ne_nil _ _
    · exact List.cons_ne_nil _ _

/-! Texts without a capital sigma -/
section NoSigma
variable {cs a b : List Char} {m : Char}

theorem lower_eq_flatMap (h : '\u03A3' ∉ cs) : lower cs = cs.flatMap lowerChar :=
  lowerAfter_eq_flatMap h []

theorem mem_of_mem_lower (h : '\u03A3' ∉ cs) (hm : BeforeLetters m) (hl : m ∈ lower cs) :
    m ∈ cs := by
  rw [lower_eq_flatMap h] at hl
  obtain ⟨c, hc, hl⟩ := List.mem_flatMap.mp hl
  rwa [← eq_of_mem_lowerChar hm hl]

theorem lower_append_cons (ha : '\u03A3' ∉ a) (hb : '\u03A3' ∉ b) (hm : BeforeLetters m) :
    lower (a ++ m :: b) = lower a ++ m :: lower b := by
  have hsigma : '\u03A3' ≠ m := by
    rintro rfl
    exact absurd hm.2 (by decide)
  have hab : '\u03A3' ∉ a ++ m :: b := by simp [ha, hb, hsigma]
  rw [lower_eq_flatMap hab, lower_eq_flatMap ha, lower_eq_flatMap hb, List.flatMap_append,
    List.flatMap_cons, lowerChar_of_beforeLetters hm]
  rfl

theorem lower_eq_singleton_iff (h : '\u03A3' ∉ cs) (hm : BeforeLetters m) :
    lower cs = [m] ↔ cs = [m] := by
  rw [lower_eq_flatMap h]
  constructor
  · intro hl
    cases cs with
    | nil => cases hl
    | cons c cs =>
      have hne := lowerChar_ne_nil c
      rw [List.flatMap_cons, List.append_eq_singleton_iff] at hl
      obtain ⟨hnil, -⟩ | ⟨hc, hrest⟩ := hl
      · exact absurd hnil hne
      have hcm : c = m := eq_of_mem_lowerChar hm (by simp [hc])
      cases cs with
      | nil => rw [hcm]
      | cons d cs => exact absurd (List.append_eq_nil_iff.mp hrest).1 (lowerChar_ne_nil d)
  · rintro rfl
    simp [lowerChar_of_beforeLetters hm]

end NoSigma

end DuckCensus.Text
