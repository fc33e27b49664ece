import DuckCensus.Proofs.Selector.Conjunction

/-! A fault shows the part of the text that is at fault. That part, read by itself, has the same
fault. -/
namespace DuckCensus
open Std Text

/-! Every fault of a clause shows the clause, whichever of its parts is wrong. -/
namespace Requirement
open Selector
variable {clause key cs rest : List Char} {fault : Fault}

theorem readKey_fault (h : readKey clause key = .error fault) :
    fault.requirement = String.ofList clause := by
  rw [readKey] at h
  split_ifs at h <;> cases h <;> rfl

theorem readSet_fault (h : readSet clause cs = .error fault) :
    fault.requirement = String.ofList clause := by
  unfold readSet at h
  cases hb : betweenParentheses? (trim cs) with
  | none =>
    rw [hb] at h
    cases h
    rfl
  | some body =>
    simp only [hb] at h
    split_ifs at h
    cases h
    rfl

theorem readMembership_fault (h : readMembership clause key rest = .error fault) :
    fault.requirement = String.ofList clause := by
  unfold readMembership at h
  cases ho : readSetOperator rest with
  | none =>
    rw [ho] at h
    cases h
    rfl
  | some found =>
    simp only [ho] at h
    obtain hk | ⟨name, -, h⟩ := bind_eq_error_iff.mp h
    · exact readKey_fault hk
    · obtain hs | ⟨values, -, h⟩ := bind_eq_error_iff.mp h
      · exact readSet_fault hs
      · cases h

theorem readTrimmed_fault (h : readTrimmed clause = .error fault) :
    fault.requirement = String.ofList clause := by
  unfold readTrimmed at h
  split at h
  next => exact readKey_fault (map_eq_error_iff.mp h)
  split at h
  next => exact readKey_fault (map_eq_error_iff.mp h)
  split at h
  next => exact readKey_fault (map_eq_error_iff.mp h)
  split at h
  next => exact readKey_fault (map_eq_error_iff.mp h)
  next => exact readMembership_fault h

end Requirement

namespace Selector

/-- What follows the last comma outside all parentheses, or else the whole text. -/
def IsTail (text tail : List Char) : Prop :=
  Whole 0 tail ∧
    (text = tail ∨ ∃ before, text = before ++ ',' :: tail ∧ endDepth 0 before = 0)

theorem exists_tail (depth : Nat) (text : List Char) : Whole depth text ∨
    ∃ before tail, text = before ++ ',' :: tail ∧ endDepth depth before = 0 ∧ Whole 0 tail := by
  induction text generalizing depth with
  | nil => exact Or.inl (whole_nil depth)
  | cons c text ih =>
    obtain h | ⟨before, tail, rfl, hd, ht⟩ := ih (depthAfter depth c)
    -- a comma starts the tail only if none behind it does
    · by_cases hc : c = ',' ∧ depth = 0
      · obtain ⟨rfl, rfl⟩ := hc
        exact Or.inr ⟨[], text, rfl, rfl, h⟩
      · exact Or.inl (whole_cons.mpr ⟨hc, h⟩)
    · exact Or.inr ⟨c :: before, tail, rfl, hd, ht⟩

/-- The last piece of a text is its tail. -/
theorem isTail_getLastD (text : List Char) : IsTail text ((pieces 0 text).getLastD []) := by
  obtain h | ⟨before, tail, rfl, hd, ht⟩ := exists_tail 0 text
  · rw [pieces_of_whole h]
    exact ⟨h, Or.inl rfl⟩
  · rw [pieces_append hd, pieces_of_whole ht, List.getLastD_eq_getLast?, List.getLast?_concat]
    exact ⟨ht, Or.inr ⟨before, rfl, hd⟩⟩

/-! White space does not matter to the scan. -/

theorem endDepth_of_allBlank {w : List Char} (h : allBlank w) (depth : Nat) :
    endDepth depth w = depth :=
  endDepth_of_not_mem (not_mem_of_allBlank h rfl) (not_mem_of_allBlank h rfl)

theorem endDepth_trim (depth : Nat) (cs : List Char) :
    endDepth depth (trim cs) = endDepth depth cs := by
  obtain ⟨a, b, ha, hb, he⟩ := exists_eq_append_trim cs
  conv_rhs => rw [he]
  rw [endDepth_append, endDepth_append, endDepth_of_allBlank ha, endDepth_of_allBlank hb]

theorem Whole.trim {depth : Nat} {cs : List Char} (h : Whole depth cs) :
    Whole depth (Text.trim cs) := by
  obtain ⟨a, b, ha, -, he⟩ := exists_eq_append_trim cs
  rw [he, List.append_assoc, whole_append, whole_append, endDepth_of_allBlank ha] at h
  exact h.2.1

theorem IsPieceFrom.trim {cs : List Char} (h : IsPieceFrom 0 cs) :
    IsPieceFrom 0 (Text.trim cs) :=
  isPieceFrom_iff.mpr ⟨(endDepth_trim 0 cs).trans h.endDepth_eq, Whole.trim h.whole⟩

theorem IsTail.isSuffix {text tail : List Char} (h : IsTail text tail) : tail <:+ text := by
  obtain ⟨-, rfl | ⟨before, rfl, -⟩⟩ := h
  · exact List.suffix_rfl
  · exact ⟨before ++ [','], by simp⟩

theorem IsTail.endDepth_eq {text tail : List Char} (h : IsTail text tail) :
    endDepth 0 tail = endDepth 0 text := by
  obtain ⟨-, rfl | ⟨before, rfl, hd⟩⟩ := h
  · rfl
  · rw [endDepth_append, hd, endDepth_cons, depthAfter_comma]

section Reading
variable {text : String} {p : List Char} {fault : Fault}

theorem read_of_allBlank (h : allBlank p) : read (String.ofList p) = .ok ⟨[]⟩ := by
  refine Vacant.read ?_
  rw [String.toList_ofList]
  exact fun c hc => Or.inl (allBlank_iff.mp h c hc)

/-- A piece that is not blank is one clause. -/
theorem read_of_isPieceFrom (h : IsPieceFrom 0 p) (hb : ¬ allBlank p) :
    read (String.ofList p) = (Requirement.read p).map ofRequirement := by
  have hclauses : (pieces 0 p).filter (!allBlank ·) = [p] := by
    rw [pieces_of_isPieceFrom h]
    simp [hb]
  rw [read_of_closed (by rw [String.toList_ofList, h.endDepth_eq]), String.toList_ofList, hclauses]
  cases hr : Requirement.read p with
  | error e => simp [hr, bind, Except.bind, Except.map]
  | ok r => simp [hr, Except.map, ofRequirement]

/-- White space around a piece does not matter. -/
theorem read_trim (h : IsPieceFrom 0 p) (hb : ¬ allBlank p) :
    read (String.ofList (trim p)) = read (String.ofList p) := by
  have htrim : trim (trim p) = trim p := trim_of_trimmed (trimmed_trim p)
  have hbt : ¬ allBlank (trim p) := by
    rw [← trim_eq_nil_iff, htrim, trim_eq_nil_iff]
    exact hb
  rw [read_of_isPieceFrom h hb, read_of_isPieceFrom h.trim hbt, Requirement.read, htrim]
  rfl

/-- Parentheses left open are the only thing that is reported of a text that has them. -/
theorem fault_of_open (hd : endDepth 0 text.toList ≠ 0) (h : read text = .error fault) :
    ∃ tail, IsTail text.toList tail ∧
      fault = ⟨.unterminatedSet, String.ofList (trim tail)⟩ := by
  rw [read_of_open hd] at h
  cases h
  exact ⟨_, isTail_getLastD text.toList, rfl⟩

/-- A tail inside parentheses is at fault by itself. -/
theorem read_tail {tail : List Char} (ht : IsTail text.toList tail)
    (hd : endDepth 0 text.toList ≠ 0) : read (String.ofList (trim tail)) =
      .error ⟨.unterminatedSet, String.ofList (trim tail)⟩ := by
  have htd : endDepth 0 (String.ofList (trim tail)).toList ≠ 0 := by
    rwa [String.toList_ofList, endDepth_trim, ht.endDepth_eq]
  rw [read_of_open htd, String.toList_ofList, pieces_of_whole (Whole.trim ht.1),
    List.getLastD_cons, List.getLastD_nil, trim_of_trimmed (trimmed_trim tail)]

-- what a piece reads as by itself: nothing if it is blank, and else one requirement
def ReadsAlone (p : List Char) : Prop :=
  allBlank p ∧ read (String.ofList p) = .ok ⟨[]⟩ ∨
    ¬ allBlank p ∧ ∃ r, read (String.ofList p) = .ok (ofRequirement r)

/-- The first piece that does not read by itself is at fault. -/
theorem fault_of_closed (hd : endDepth 0 text.toList = 0) (h : read text = .error fault) :
    ∃ before piece after, CutsInto text.toList (before ++ piece :: after) ∧
      ¬ allBlank piece ∧ read (String.ofList piece) = .error fault ∧
      fault.requirement = String.ofList (trim piece) ∧ ∀ q ∈ before, ReadsAlone q := by
  rw [read_of_closed hd] at h
  obtain ⟨before, piece, after, he, hb, hf, hbefore⟩ :=
    (mapM_eq_error_iff.mp (map_eq_error_iff.mp h)).of_filter
  have hcuts : CutsInto text.toList (before ++ piece :: after) := cutsInto_iff.mpr ⟨hd, he⟩
  have hpiece : ∀ q ∈ before ++ piece :: after, IsPieceFrom 0 q := hcuts.2.2
  have hblank : ¬ allBlank piece := by simpa using hb
  refine ⟨before, piece, after, hcuts, hblank, ?_, Requirement.readTrimmed_fault hf, ?_⟩
  · rw [read_of_isPieceFrom (hpiece piece (by simp)) hblank, hf]
    rfl
  · intro q hq
    by_cases hqb : allBlank q
    · exact Or.inl ⟨hqb, read_of_allBlank hqb⟩
    · obtain ⟨r, hr⟩ := hbefore q hq (by simp [hqb])
      refine Or.inr ⟨hqb, r, ?_⟩
      rw [read_of_isPieceFrom (hpiece q (by simp [hq])) hqb, hr]
      rfl

end Reading

/-- A fault shows a trimmed part of the text, and that part has the same fault by itself. If the
text ends inside parentheses the part is its tail, whatever is wrong before. Else it is the first
piece that does not read by itself, and every piece before it reads as one requirement or is blank.
-/
theorem read_fault_local {text : String} {fault : Fault} (h : read text = .error fault) :
    fault.requirement.toList <:+: text.toList ∧ Trimmed fault.requirement.toList ∧
    read fault.requirement = .error fault ∧
    (endDepth 0 text.toList ≠ 0 → ∃ tail, IsTail text.toList tail ∧
      fault = ⟨.unterminatedSet, String.ofList (trim tail)⟩) ∧
    (endDepth 0 text.toList = 0 → ∃ before piece after,
      CutsInto text.toList (before ++ piece :: after) ∧
      fault.requirement = String.ofList (trim piece) ∧
      ¬ allBlank piece ∧ read (String.ofList piece) = .error fault ∧
      ∀ q ∈ before, ReadsAlone q) := by
  by_cases hd : endDepth 0 text.toList = 0
  · obtain ⟨before, piece, after, hcuts, hb, hread, hshows, hbefore⟩ := fault_of_closed hd h
    have hpiece : IsPieceFrom 0 piece := hcuts.2.2 piece (by simp)
    refine ⟨?_, ?_, ?_, fun hn => absurd hd hn,
      fun _ => ⟨before, piece, after, hcuts, hshows, hb, hread, hbefore⟩⟩
    · rw [hshows, String.toList_ofList, ← hcuts.2.1]
      exact (trim_infix_self piece).trans (infix_intercalate (by simp))
    · rw [hshows, String.toList_ofList]
      exact trimmed_trim piece
    · rw [hshows, read_trim hpiece hb, hread]
  · obtain ⟨tail, ht, rfl⟩ := fault_of_open hd h
    refine ⟨?_, ?_, read_tail ht hd, fun _ => ⟨tail, ht, rfl⟩, fun hn => absurd hn hd⟩
    · rw [String.toList_ofList]
      exact (trim_infix_self tail).trans ht.isSuffix.isInfix
    · rw [String.toList_ofList]
      exact trimmed_trim tail

/-- What stands before the fault reads alone or is blank, and what stands behind it does not matter
until it leaves a parenthesis open. -/
theorem read_fault_local_birds :
    (read "=yes" = .error ⟨.missingKey, "=yes"⟩ ∧ ∃ before piece after,
      CutsInto "bird,, =yes ,bird in ()".toList (before ++ piece :: after) ∧
      "=yes" = String.ofList (trim piece) ∧ ∀ q ∈ before, ReadsAlone q) ∧
    read "bird in (goose,swan" = .error ⟨.unterminatedSet, "bird in (goose,swan"⟩ ∧
    ∃ tail, IsTail "bird,, =yes ,bird in (goose,swan".toList tail ∧
      "bird in (goose,swan" = String.ofList (trim tail) := by
  have hmissing : read "bird,, =yes ,bird in ()" = .error ⟨.missingKey, "=yes"⟩ := by
    decide +kernel
  have hunterminated : read "bird,, =yes ,bird in (goose,swan" =
      .error ⟨.unterminatedSet, "bird in (goose,swan"⟩ := by decide +kernel
  obtain ⟨-, -, hread, -, hclosed⟩ := read_fault_local hmissing
  obtain ⟨-, -, hread', hopen, -⟩ := read_fault_local hunterminated
  obtain ⟨before, piece, after, hcuts, hshows, -, -, hbefore⟩ := hclosed (by decide +kernel)
  obtain ⟨tail, ht, hf⟩ := hopen (by decide +kernel)
  exact ⟨⟨hread, before, piece, after, hcuts, hshows, hbefore⟩, hread', tail, ht,
    congrArg Fault.requirement hf⟩

end Selector
end DuckCensus
