import DuckCensus.Selector

/-! A selector text is cut at the commas outside all parentheses. The pieces are determined by what
they are and not by the scan that finds them. -/
namespace DuckCensus.Selector
open Text

/-- A text leads from so many open parentheses to so many. One that closes while none is open
changes nothing. -/
inductive Nests : Nat → List Char → Nat → Prop where
  | nil {n : Nat} : Nests n [] n
  | opening {n m : Nat} {cs : List Char} : Nests (n + 1) cs m → Nests n ('(' :: cs) m
  | closing {n m : Nat} {cs : List Char} : Nests n cs m → Nests (n + 1) (')' :: cs) m
  | surplus {m : Nat} {cs : List Char} : Nests 0 cs m → Nests 0 (')' :: cs) m
  | other {n m : Nat} {c : Char} {cs : List Char} : c ≠ '(' → c ≠ ')' → Nests n cs m →
      Nests n (c :: cs) m

/-- With so many parentheses open before it, a piece leaves none open and has no comma where none
is. -/
def IsPieceFrom (depth : Nat) (p : List Char) : Prop :=
  Nests depth p 0 ∧ ∀ before after, p = before ++ ',' :: after → ¬ Nests depth before 0

-- scanned from `depth` on, a text has no comma outside all parentheses
def Whole (depth : Nat) (p : List Char) : Prop :=
  ∀ before after, p = before ++ ',' :: after → endDepth depth before ≠ 0

/-- The pieces with commas between them are the text. There is at least one, so the empty text has
one piece, the empty one. -/
def CutsInto (text : List Char) (ps : List (List Char)) : Prop :=
  ps ≠ [] ∧ [','].intercalate ps = text ∧ ∀ p ∈ ps, IsPieceFrom 0 p

theorem endDepth_cons (depth : Nat) (c : Char) (cs : List Char) :
    endDepth depth (c :: cs) = endDepth (depthAfter depth c) cs := rfl

/-- The scan counts by the rules. -/
theorem nests_iff {n m : Nat} {cs : List Char} : Nests n cs m ↔ endDepth n cs = m := by
  constructor
  · intro h
    induction h with
    | nil => rfl
    | opening _ ih => exact ih
    | closing _ ih => exact ih
    | surplus _ ih => exact ih
    | other ho hc _ ih => rw [endDepth_cons, depthAfter, if_neg ho, if_neg hc, ih]
  · intro h
    induction cs generalizing n with
    | nil => exact h ▸ .nil
    | cons c cs ih =>
      by_cases ho : c = '('
      · subst ho
        exact .opening (ih h)
      by_cases hc : c = ')'
      · subst hc
        cases n with
        | zero => exact .surplus (ih h)
        | succ n => exact .closing (ih h)
      rw [endDepth_cons, depthAfter, if_neg ho, if_neg hc] at h
      exact .other ho hc (ih h)

theorem isPieceFrom_iff {depth : Nat} {p : List Char} :
    IsPieceFrom depth p ↔ endDepth depth p = 0 ∧ Whole depth p := by
  simp only [IsPieceFrom, nests_iff, Whole, ne_eq]

theorem IsPieceFrom.endDepth_eq {depth : Nat} {p : List Char} (h : IsPieceFrom depth p) :
    endDepth depth p = 0 := nests_iff.mp h.1

theorem IsPieceFrom.whole {depth : Nat} {p : List Char} (h : IsPieceFrom depth p) :
    Whole depth p := (isPieceFrom_iff.mp h).2

theorem depthAfter_comma (depth : Nat) : depthAfter depth ',' = depth := rfl

/-- Only parentheses change the depth. -/
theorem endDepth_of_not_mem {depth : Nat} {a : List Char} (ho : '(' ∉ a) (hc : ')' ∉ a) :
    endDepth depth a = depth := by
  induction a with
  | nil => rfl
  | cons c a ih =>
    obtain ⟨ho, hoa⟩ := List.ne_and_not_mem_of_not_mem_cons ho
    obtain ⟨hc, hca⟩ := List.ne_and_not_mem_of_not_mem_cons hc
    rw [endDepth_cons, depthAfter, if_neg ho.symm, if_neg hc.symm, ih hoa hca]

theorem whole_nil (depth : Nat) : Whole depth [] := by
  simp [Whole]

theorem whole_cons {depth : Nat} {c : Char} {p : List Char} :
    Whole depth (c :: p) ↔ ¬ (c = ',' ∧ depth = 0) ∧ Whole (depthAfter depth c) p := by
  constructor
  · intro h
    refine ⟨fun hc => h [] p (by rw [hc.1]; rfl) hc.2, ?_⟩
    intro before after hp
    exact h (c :: before) after (by rw [hp]; rfl)
  · intro h
    obtain ⟨hn, hc⟩ := h
    intro before after hp hz
    cases before with
    | nil =>
      cases hp
      exact hn ⟨rfl, hz⟩
    | cons b before =>
      cases hp
      exact hc before after rfl hz

theorem whole_append {depth : Nat} {a p : List Char} :
    Whole depth (a ++ p) ↔ Whole depth a ∧ Whole (endDepth depth a) p := by
  induction a generalizing depth with
  | nil => exact (and_iff_right (whole_nil depth)).symm
  | cons c a ih => rw [List.cons_append, whole_cons, whole_cons, ih, and_assoc, endDepth_cons]

/-- Without parentheses the depth never changes. -/
theorem whole_of_not_mem {depth : Nat} {a : List Char} (ho : '(' ∉ a) (hc : ')' ∉ a)
    (hs : depth = 0 → ',' ∉ a) : Whole depth a := by
  intro before after ha hz
  have hb : endDepth depth before = depth := by
    apply endDepth_of_not_mem
    · exact fun hm => ho (by simp [ha, hm])
    · exact fun hm => hc (by simp [ha, hm])
  exact hs (hb.symm.trans hz) (by simp [ha])

theorem isPieceFrom_nil {depth : Nat} : IsPieceFrom depth [] ↔ depth = 0 := by
  rw [isPieceFrom_iff]
  exact and_iff_left (whole_nil depth)

theorem isPieceFrom_cons {depth : Nat} {c : Char} {p : List Char} :
    IsPieceFrom depth (c :: p) ↔
      ¬ (c = ',' ∧ depth = 0) ∧ IsPieceFrom (depthAfter depth c) p := by
  rw [isPieceFrom_iff, isPieceFrom_iff, endDepth_cons, whole_cons]
  exact and_left_comm

/-- Text without parentheses does not matter to the scan unless it has a comma outside them. -/
theorem isPieceFrom_append_iff {depth : Nat} {a p : List Char} (ho : '(' ∉ a) (hc : ')' ∉ a)
    (hs : depth = 0 → ',' ∉ a) : IsPieceFrom depth (a ++ p) ↔ IsPieceFrom depth p := by
  rw [isPieceFrom_iff, isPieceFrom_iff, endDepth_append, whole_append, endDepth_of_not_mem ho hc,
    and_iff_right (whole_of_not_mem ho hc hs)]

/-- A comma in a piece has a parenthesis open before it. -/
theorem IsPieceFrom.comma_not_mem {p : List Char} (h : IsPieceFrom 0 p) (ho : '(' ∉ p) :
    ',' ∉ p := by
  induction p with
  | nil => exact List.not_mem_nil
  | cons c p ih =>
    obtain ⟨ho, hop⟩ := List.ne_and_not_mem_of_not_mem_cons ho
    obtain ⟨hn, hp⟩ := isPieceFrom_cons.mp h
    have hd : depthAfter 0 c = 0 := by
      rw [depthAfter, if_neg ho.symm, Nat.zero_sub, ite_self]
    rw [hd] at hp
    exact List.not_mem_cons_of_ne_of_not_mem (fun he => hn ⟨he.symm, rfl⟩) (ih hp hop)

theorem pieces_of_whole {depth : Nat} {p : List Char} (h : Whole depth p) :
    pieces depth p = [p] := by
  induction p generalizing depth with
  | nil => rfl
  | cons c p ih =>
    obtain ⟨hn, hp⟩ := whole_cons.mp h
    rw [pieces, if_neg hn, ih hp]
    rfl

theorem pieces_of_isPieceFrom {depth : Nat} {p : List Char} (h : IsPieceFrom depth p) :
    pieces depth p = [p] := pieces_of_whole h.whole

theorem pieces_comma (cs : List Char) : pieces 0 (',' :: cs) = [] :: pieces 0 cs := by
  rw [pieces, if_pos ⟨rfl, rfl⟩]

/-- Where two texts meet, the last piece of the one and the first of the other are one piece. -/
theorem exists_pieces_append (depth : Nat) (a b : List Char) :
    ∃ ps p q qs, pieces depth a = ps ++ [p] ∧ pieces (endDepth depth a) b = q :: qs ∧
      pieces depth (a ++ b) = ps ++ (p ++ q) :: qs := by
  induction a generalizing depth with
  | nil =>
    obtain ⟨q, qs, hq⟩ := List.exists_cons_of_ne_nil (pieces_ne_nil depth b)
    exact ⟨[], [], q, qs, rfl, hq, hq⟩
  | cons c a ih =>
    obtain ⟨ps, p, q, qs, ha, hb, hab⟩ := ih (depthAfter depth c)
    rw [List.cons_append, pieces, pieces, endDepth_cons]
    by_cases hc : c = ',' ∧ depth = 0
    · obtain ⟨rfl, rfl⟩ := hc
      rw [depthAfter_comma] at ha hb hab
      rw [if_pos ⟨rfl, rfl⟩, if_pos ⟨rfl, rfl⟩, ha, hab]
      exact ⟨[] :: ps, p, q, qs, rfl, hb, rfl⟩
    · rw [if_neg hc, if_neg hc, ha, hab]
      cases ps with
      | nil => exact ⟨[], c :: p, q, qs, rfl, hb, rfl⟩
      | cons r ps => exact ⟨(c :: r) :: ps, p, q, qs, rfl, hb, rfl⟩

/-- The scan starts anew behind a comma that stands outside all parentheses. -/
theorem pieces_append {depth : Nat} {a : List Char} (h : endDepth depth a = 0) (b : List Char) :
    pieces depth (a ++ ',' :: b) = pieces depth a ++ pieces 0 b := by
  obtain ⟨ps, p, q, qs, ha, hb, hab⟩ := exists_pieces_append depth a (',' :: b)
  rw [h, pieces_comma] at hb
  cases hb
  rw [hab, ha, List.append_nil, List.append_assoc, List.singleton_append]

theorem pieces_append_comma {depth : Nat} {p : List Char} (h : IsPieceFrom depth p)
    (rest : List Char) : pieces depth (p ++ ',' :: rest) = p :: pieces 0 rest := by
  rw [pieces_append h.endDepth_eq, pieces_of_isPieceFrom h]
  rfl

/-- The first piece goes on from the depth of the scan, the others start anew. -/
theorem pieces_spec {depth : Nat} {text : List Char} (h : endDepth depth text = 0) :
    ∃ p ps, pieces depth text = p :: ps ∧ IsPieceFrom depth p ∧ ∀ q ∈ ps, IsPieceFrom 0 q := by
  induction text generalizing depth with
  | nil => exact ⟨[], [], rfl, isPieceFrom_nil.mpr h, by simp⟩
  | cons c text ih =>
    by_cases hc : c = ',' ∧ depth = 0
    · obtain ⟨rfl, rfl⟩ := hc
      rw [endDepth_cons, depthAfter_comma] at h
      obtain ⟨p, ps, he, hp, hps⟩ := ih h
      rw [pieces, if_pos ⟨rfl, rfl⟩, he]
      exact ⟨[], p :: ps, rfl, isPieceFrom_nil.mpr rfl, List.forall_mem_cons.mpr ⟨hp, hps⟩⟩
    · obtain ⟨p, ps, he, hp, hps⟩ := ih (endDepth_cons depth c text ▸ h)
      rw [pieces, if_neg hc, he]
      exact ⟨c :: p, ps, rfl, isPieceFrom_cons.mpr ⟨hc, hp⟩, hps⟩

theorem pieces_intercalate {ps : List (List Char)} (hne : ps ≠ [])
    (h : ∀ p ∈ ps, IsPieceFrom 0 p) :
    pieces 0 ([','].intercalate ps) = ps ∧ endDepth 0 ([','].intercalate ps) = 0 := by
  induction ps with
  | nil => exact absurd rfl hne
  | cons p ps ih =>
    obtain ⟨hp, hps⟩ := List.forall_mem_cons.mp h
    cases ps with
    | nil =>
      rw [List.intercalate_singleton]
      exact ⟨pieces_of_isPieceFrom hp, hp.endDepth_eq⟩
    | cons q ps =>
      obtain ⟨ihp, ihd⟩ := ih (List.cons_ne_nil q ps) hps
      rw [List.intercalate_cons_cons, List.append_assoc, List.singleton_append]
      refine ⟨by rw [pieces_append_comma hp, ihp], ?_⟩
      rw [endDepth_append, hp.endDepth_eq, endDepth_cons]
      exact ihd

/-- A text can be cut in one way if it ends outside all parentheses, and else not at all. -/
theorem cutsInto_iff {text : List Char} {ps : List (List Char)} :
    CutsInto text ps ↔ endDepth 0 text = 0 ∧ pieces 0 text = ps := by
  constructor
  · intro h
    obtain ⟨hne, rfl, hp⟩ := h
    exact (pieces_intercalate hne hp).symm
  · intro h
    obtain ⟨hd, rfl⟩ := h
    obtain ⟨p, ps, he, hp, hps⟩ := pieces_spec hd
    refine ⟨pieces_ne_nil 0 text, intercalate_pieces 0 text, ?_⟩
    rw [he]
    exact List.forall_mem_cons.mpr ⟨hp, hps⟩

theorem clauses_eq_ok_iff {text : List Char} {cs : List (List Char)} :
    clauses text = .ok cs ↔ ∃ ps, CutsInto text ps ∧ ps.filter (!allBlank ·) = cs := by
  simp only [cutsInto_iff]
  rw [clauses]
  by_cases h : endDepth 0 text = 0
  · simp [h]
  · simp [h]

end DuckCensus.Selector
