import DuckCensus.Proofs.Selector.Locality
import Mathlib.Data.String.Basic

/-! The pieces of a selector text as slices between byte offsets. A scan that only keeps offsets
never cuts a character in two, and what it slices are the pieces. -/
namespace DuckCensus.Selector
open Text

structure Extent where
  start : Nat
  stop : Nat

/-- Both ends stand between characters of the text, and in this order. -/
def Extent.Fits (e : Extent) (text : String) : Prop :=
  e.start ≤ e.stop ∧ (String.Pos.Raw.mk e.start).IsValid text ∧
    (String.Pos.Raw.mk e.stop).IsValid text

def Extent.slice (e : Extent) (text : String) : List Char :=
  (String.Pos.Raw.extract text ⟨e.start⟩ ⟨e.stop⟩).toList

-- The scan knows how many parentheses are open, where the piece at hand starts, and where it stands
-- itself. A comma takes one byte.
def extentsFrom (depth start here : Nat) : List Char → List Extent
  | [] => [⟨start, here⟩]
  | c :: cs =>
    if c = ',' ∧ depth = 0 then ⟨start, here⟩ :: extentsFrom 0 (here + 1) (here + 1) cs
    else extentsFrom (depthAfter depth c) start (here + c.utf8Size) cs

def extents (text : String) : List Extent := extentsFrom 0 0 0 text.toList

def slices (text : String) : List (List Char) := (extents text).map (·.slice text)

/-- The scan stands before `rest`, and so far the piece at hand is `piece`. -/
def Standing (text : String) (start here : Nat) (piece rest : List Char) : Prop :=
  ∃ before, text.toList = before ++ piece ++ rest ∧ start = String.utf8Len before ∧
    here = start + String.utf8Len piece

theorem standing_zero (text : String) : Standing text 0 0 [] text.toList := ⟨[], by simp⟩

theorem isValid_utf8Len (a b : List Char) :
    (String.Pos.Raw.mk (String.utf8Len a)).IsValid (String.ofList (a ++ b)) := by
  rw [String.Pos.Raw.isValid_iff_exists_append]
  exact ⟨String.ofList a, String.ofList b, String.ofList_append, by simp⟩

section Standing
variable {text : String} {start here : Nat} {piece rest : List Char} {c : Char}

theorem Standing.next (h : Standing text start here piece (c :: rest)) :
    Standing text start (here + c.utf8Size) (piece ++ [c]) rest := by
  obtain ⟨before, ht, hs, hh⟩ := h
  refine ⟨before, by simpa using ht, hs, ?_⟩
  simp only [String.utf8Len_append, String.utf8Len_cons, String.utf8Len_nil]
  omega

theorem Standing.comma (h : Standing text start here piece (',' :: rest)) :
    Standing text (here + 1) (here + 1) [] rest := by
  obtain ⟨before, ht, hs, hh⟩ := h
  have hcomma : ','.utf8Size = 1 := rfl
  refine ⟨before ++ piece ++ [','], by simpa using ht, ?_, rfl⟩
  simp only [String.utf8Len_append, String.utf8Len_cons, String.utf8Len_nil]
  omega

theorem Standing.fits (h : Standing text start here piece rest) :
    (Extent.mk start here).Fits text ∧ (Extent.mk start here).slice text = piece := by
  obtain ⟨before, ht, rfl, rfl⟩ := h
  have htext : text = String.ofList (before ++ piece ++ rest) := by
    rw [← ht, String.ofList_toList]
  refine ⟨⟨Nat.le_add_right _ _, ?_, ?_⟩, ?_⟩
  · rw [htext, List.append_assoc]
    exact isValid_utf8Len before (piece ++ rest)
  · rw [htext]
    simpa using isValid_utf8Len (before ++ piece) rest
  · rw [htext, Extent.slice, String.extract_of_valid, String.toList_ofList]

/-- From where the scan stands it slices the pieces of the rest, the first of them together with
the piece at hand. -/
theorem Standing.extentsFrom (h : Standing text start here piece rest) (depth : Nat) :
    (∀ e ∈ extentsFrom depth start here rest, e.Fits text) ∧
      ∃ p ps, pieces depth rest = p :: ps ∧
        (Selector.extentsFrom depth start here rest).map (·.slice text) = (piece ++ p) :: ps := by
  induction rest generalizing depth start here piece with
  | nil =>
    obtain ⟨hf, hp⟩ := h.fits
    refine ⟨by simpa [Selector.extentsFrom] using hf, [], [], rfl, ?_⟩
    simpa [Selector.extentsFrom] using hp
  | cons c rest ih =>
    by_cases hc : c = ',' ∧ depth = 0
    · obtain ⟨rfl, rfl⟩ := hc
      obtain ⟨hf, hp⟩ := h.fits
      obtain ⟨hfs, p, ps, he, hps⟩ := ih h.comma 0
      rw [Selector.extentsFrom, if_pos ⟨rfl, rfl⟩, pieces_comma, he]
      refine ⟨List.forall_mem_cons.mpr ⟨hf, hfs⟩, [], p :: ps, rfl, ?_⟩
      rw [List.map_cons, hp, hps, List.append_nil, List.nil_append]
    · obtain ⟨hfs, p, ps, he, hps⟩ := ih h.next (depthAfter depth c)
      rw [Selector.extentsFrom, if_neg hc, pieces, if_neg hc, he]
      exact ⟨hfs, c :: p, ps, rfl, by rw [hps, List.append_assoc, List.singleton_append]⟩

end Standing

theorem fits_of_mem_extents {text : String} : ∀ e ∈ extents text, e.Fits text :=
  ((standing_zero text).extentsFrom 0).1

theorem slices_eq_pieces (text : String) : slices text = pieces 0 text.toList := by
  obtain ⟨-, p, ps, he, hps⟩ := (standing_zero text).extentsFrom 0
  rw [slices, extents, hps, he, List.nil_append]

/-- A parenthesis that closes nothing is one more character of its piece. -/
theorem exists_pieces_closing {before : List Char} (h : endDepth 0 before = 0)
    (after : List Char) :
    ∃ ps p q qs, pieces 0 before = ps ++ [p] ∧ pieces 0 after = q :: qs ∧
      pieces 0 (before ++ after) = ps ++ (p ++ q) :: qs ∧
      pieces 0 (before ++ ')' :: after) = ps ++ (p ++ ')' :: q) :: qs := by
  obtain ⟨ps, p, q, qs, hb, ha, hba⟩ := exists_pieces_append 0 before after
  obtain ⟨ps', p', q', qs', hb', ha', hba'⟩ := exists_pieces_append 0 before (')' :: after)
  have hclosing : pieces 0 (')' :: after) = (')' :: q) :: qs := by
    rw [h] at ha
    rw [pieces, if_neg (by decide), show depthAfter 0 ')' = 0 from rfl, ha]
    rfl
  rw [h] at ha ha'
  rw [hclosing] at ha'
  cases ha'
  obtain ⟨rfl, he⟩ := List.append_inj' (hb.symm.trans hb') rfl
  cases he
  exact ⟨ps, p, q, qs, hb, ha, hba, hba'⟩

/-- A text that ends inside parentheses is at fault with what follows its last comma outside them.
Any other can be cut in one way, and its clauses are the slices that are not blank. The slices
never cut a character in two, and a parenthesis that closes nothing changes no cut. -/
theorem clauses_without_loss (text : String) :
    ((∃ fault, clauses text.toList = .error fault) ↔ endDepth 0 text.toList ≠ 0) ∧
    (endDepth 0 text.toList ≠ 0 → ∃ tail, IsTail text.toList tail ∧
      (slices text).getLast? = some tail ∧
      clauses text.toList = .error ⟨.unterminatedSet, String.ofList (trim tail)⟩) ∧
    (endDepth 0 text.toList = 0 → (∀ ps, CutsInto text.toList ps ↔ ps = slices text) ∧
      clauses text.toList = .ok ((slices text).filter (!allBlank ·))) ∧
    (∀ e ∈ extents text, e.Fits text) ∧
    ∀ before after, text.toList = before ++ ')' :: after → endDepth 0 before = 0 →
      endDepth 0 text.toList = endDepth 0 (before ++ after) ∧
      ∃ ps p q qs, before = [','].intercalate (ps ++ [p]) ∧ after = [','].intercalate (q :: qs) ∧
        pieces 0 (before ++ after) = ps ++ (p ++ q) :: qs ∧
        slices text = ps ++ (p ++ ')' :: q) :: qs := by
  refine ⟨?_, ?_, ?_, fits_of_mem_extents, ?_⟩
  · by_cases hd : endDepth 0 text.toList = 0 <;> simp [clauses, hd]
  · intro hd
    rw [slices_eq_pieces, clauses, if_neg hd]
    refine ⟨_, isTail_getLastD text.toList, ?_, rfl⟩
    rw [List.getLastD_eq_getLast?, List.getLast?_eq_some_getLast (pieces_ne_nil 0 text.toList)]
    rfl
  · intro hd
    rw [slices_eq_pieces]
    refine ⟨fun ps => ?_, by rw [clauses, if_pos hd]⟩
    rw [cutsInto_iff, and_iff_right hd, eq_comm]
  · intro before after ht hd
    obtain ⟨ps, p, q, qs, hb, ha, hba, hclosing⟩ := exists_pieces_closing hd after
    refine ⟨?_, ps, p, q, qs, ?_, ?_, hba, ?_⟩
    · rw [ht, endDepth_append, endDepth_append, hd]
      rfl
    · rw [← hb, intercalate_pieces]
    · rw [← ha, intercalate_pieces]
    · rw [slices_eq_pieces, ht, hclosing]

/-- Characters of several bytes stand on both sides of every cut, and the first parenthesis closes
nothing. -/
theorem clauses_without_loss_swans :
    (∀ ps, CutsInto "größe=3),白鳥 in (ä,ö),".toList ps ↔
      ps = ["größe=3)".toList, "白鳥 in (ä,ö)".toList, []]) ∧
    clauses "größe=3),白鳥 in (ä,ö),".toList =
      .ok ["größe=3)".toList, "白鳥 in (ä,ö)".toList] ∧
    (∃ ps p q qs, ",白鳥 in (ä,ö),".toList = [','].intercalate (q :: qs) ∧
      slices "größe=3),白鳥 in (ä,ö)," = ps ++ (p ++ ')' :: q) :: qs) ∧
    ∃ tail, IsTail "größe=3),白鳥 in (ä".toList tail ∧
      clauses "größe=3),白鳥 in (ä".toList =
        .error ⟨.unterminatedSet, String.ofList (trim tail)⟩ := by
  have hslices : slices "größe=3),白鳥 in (ä,ö)," =
      ["größe=3)".toList, "白鳥 in (ä,ö)".toList, []] := by decide +kernel
  obtain ⟨-, -, hclosed, -, hclosing⟩ := clauses_without_loss "größe=3),白鳥 in (ä,ö),"
  obtain ⟨hcuts, hclauses⟩ := hclosed (by decide +kernel)
  obtain ⟨-, ps, p, q, qs, -, hafter, -, hq⟩ :=
    hclosing "größe=3".toList ",白鳥 in (ä,ö),".toList (by decide +kernel) (by decide +kernel)
  obtain ⟨-, hopen, -⟩ := clauses_without_loss "größe=3),白鳥 in (ä"
  obtain ⟨tail, ht, -, htail⟩ := hopen (by decide +kernel)
  rw [hslices] at hcuts hclauses
  exact ⟨hcuts, hclauses, ⟨ps, p, q, qs, hafter, hq⟩, tail, ht, htail⟩

end DuckCensus.Selector
