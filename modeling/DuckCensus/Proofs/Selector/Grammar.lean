import DuckCensus.Proofs.Selector.Cutting
import DuckCensus.Proofs.Steps
import DuckCensus.Proofs.Text.Cut
import DuckCensus.Proofs.Text.Tokens
import DuckCensus.Proofs.Text.Trim
import DuckCensus.Selector

/-! The grammar of selector texts, and that reading accepts exactly the texts of the grammar. -/
namespace DuckCensus
open Std Text Selector

namespace Requirement

def IsKey (k : List Char) : Prop :=
  k ≠ [] ∧ ∀ c ∈ k, isBlank c = false ∧ c ∉ ['(', ')', '=', '!', ',']

/-- The values are the trimmed parts between the commas but the empty ones, and there is at least
one. -/
def Values (x : List Char) (values : ExtTreeSet String) : Prop :=
  values ≠ ∅ ∧ ∀ value, value ∈ values ↔
    value ≠ "" ∧ ∃ part ∈ x.splitOn ',', trim part = value.toList

inductive SetWord : List Char → (String → ExtTreeSet String → Requirement) → Prop where
  | isIn : SetWord ['i', 'n'] isIn
  | notIn : SetWord ['n', 'o', 't', 'i', 'n'] notIn

/-- The requirements that a trimmed clause can denote, each operator with the ones before it shut
out. -/
inductive Denotes : List Char → Requirement → Prop where
  | absent {w k : List Char} : allBlank w → IsKey k →
      Denotes ('!' :: (w ++ k)) (.absent (String.ofList k))
  | differs {k w x : List Char} : IsKey k → allBlank w →
      Denotes (k ++ w ++ (['!', '='] ++ x)) (.differs (String.ofList k) (String.ofList (trim x)))
  | equalsTwice {k w x : List Char} : IsKey k → allBlank w →
      ¬ ['!', '='] <:+: k ++ w ++ (['=', '='] ++ x) →
      Denotes (k ++ w ++ (['=', '='] ++ x)) (.equals (String.ofList k) (String.ofList (trim x)))
  | equals {k w x : List Char} : IsKey k → allBlank w →
      ¬ ['!', '='] <:+: k ++ w ++ (['='] ++ x) → ¬ ['=', '='] <:+: k ++ w ++ (['='] ++ x) →
      Denotes (k ++ w ++ (['='] ++ x)) (.equals (String.ofList k) (String.ofList (trim x)))
  | present {k : List Char} : IsKey k → Denotes k (.present (String.ofList k))
  | membership {k v word w x : List Char} {operator : String → ExtTreeSet String → Requirement}
      {values : ExtTreeSet String} : IsKey k → allBlank v → v ≠ [] → SetWord word operator →
      allBlank w → Values x values → '=' ∉ k ++ v ++ (word ++ (w ++ ('(' :: x ++ [')']))) →
      Denotes (k ++ v ++ (word ++ (w ++ ('(' :: x ++ [')'])))) (operator (String.ofList k) values)

theorem SetWord.not_mem {word : List Char} {operator : String → ExtTreeSet String → Requirement}
    {c : Char} (h : SetWord word operator) (hc : c ∈ ['(', ')', ',', '=']) : c ∉ word := by
  cases h with
  | isIn => grind
  | notIn => grind

/-! Keys -/

theorem IsKey.trimmed {k : List Char} (h : IsKey k) : Trimmed k :=
  trimmed_of_forall fun c hc => (h.2 c hc).1

theorem IsKey.not_mem {k w : List Char} {c : Char} (h : IsKey k) (hw : allBlank w)
    (hc : c ∈ ['(', ')', '=', '!', ',']) (hb : isBlank c = false) : c ∉ k ++ w := by
  intro hm
  cases List.mem_append.mp hm with
  | inl hm => exact (h.2 c hm).2 hc
  | inr hm => exact not_mem_of_allBlank hw hb hm

theorem IsKey.trim_append {k w : List Char} (h : IsKey k) (hw : allBlank w) : trim (k ++ w) = k :=
  Text.trim_append (a := []) rfl h.trimmed hw

/-- The key at the start of a trimmed clause has white space behind it only. -/
theorem exists_eq_key_append {cs rest : List Char} (h : Trimmed (cs ++ rest)) :
    ∃ w, allBlank w ∧ cs = trim cs ++ w := by
  obtain ⟨a, w, ha, hw, he⟩ := exists_eq_append_trim cs
  have hn : a = [] := by
    rw [he, List.append_assoc, List.append_assoc] at h
    exact h.left_eq_nil ha
  rw [hn, List.nil_append] at he
  exact ⟨w, hw, he⟩

theorem isKey_iff {k : List Char} : IsKey k ↔ k ≠ [] ∧ k.all isKeyChar := by
  simp [IsKey, isKeyChar]

theorem readKey_eq_ok_iff {clause cs : List Char} {key : String} :
    readKey clause cs = .ok key ↔ IsKey (trim cs) ∧ key = String.ofList (trim cs) := by
  rw [isKey_iff, readKey]
  by_cases hn : trim cs = []
  · simp [hn]
  · by_cases ha : (trim cs).all isKeyChar
    · rw [if_neg hn, if_pos ha]
      simp only [Except.ok.injEq]
      exact ⟨fun h => ⟨⟨hn, ha⟩, h.symm⟩, fun h => h.2.symm⟩
    · rw [if_neg hn, if_neg ha]
      simp only [ha]
      simp

theorem readKey_append {k w : List Char} (hk : IsKey k) (hw : allBlank w)
    (clause : List Char) : readKey clause (k ++ w) = .ok (String.ofList k) := by
  rw [readKey_eq_ok_iff, hk.trim_append hw]
  exact ⟨hk, rfl⟩

theorem exists_key_of_cutAt? {mark clause key x : List Char} {name : String}
    (ht : Trimmed clause) (hc : cutAt? mark clause = some (key, x))
    (hr : readKey clause key = .ok name) :
    ∃ k w, IsKey k ∧ allBlank w ∧ name = String.ofList k ∧ clause = k ++ w ++ (mark ++ x) := by
  obtain ⟨hk, rfl⟩ := readKey_eq_ok_iff.mp hr
  have he := eq_of_cutAt?_eq_some hc
  rw [List.append_assoc] at he
  obtain ⟨w, hw, hkey⟩ := exists_eq_key_append (he ▸ ht)
  exact ⟨trim key, w, hk, hw, rfl, by rw [← hkey, ← he]⟩

/-! Sets of values -/

theorem values_iff {x : List Char} {values : ExtTreeSet String} :
    Values x values ↔ items x ≠ [] ∧ values = tokens x := by
  simp only [Values, ← toList_mem_items_iff, ← eq_tokens_iff]
  refine and_congr_left fun h => ?_
  rw [h, ne_eq, tokens_eq_empty_iff]

theorem readSetOperator_eq_some_iff {cs set : List Char}
    {operator : String → ExtTreeSet String → Requirement} :
    readSetOperator cs = some (operator, set) ↔
      ∃ word, SetWord word operator ∧ cs = word ++ set ∧ endsOperator set := by
  constructor
  · intro h
    cases hn : behind? ['n', 'o', 't', 'i', 'n'] cs with
    | some rest =>
      simp only [readSetOperator, hn, Option.ite_none_right_eq_some, Option.some.injEq,
        Prod.mk.injEq] at h
      obtain ⟨he, rfl, rfl⟩ := h
      exact ⟨_, .notIn, behind?_eq_some_iff.mp hn, he⟩
    | none =>
    cases hi : behind? ['i', 'n'] cs with
    | some rest =>
      simp only [readSetOperator, hn, hi, Option.ite_none_right_eq_some, Option.some.injEq,
        Prod.mk.injEq] at h
      obtain ⟨he, rfl, rfl⟩ := h
      exact ⟨_, .isIn, behind?_eq_some_iff.mp hi, he⟩
    | none =>
      simp only [readSetOperator, hn, hi] at h
      cases h
  · intro h
    obtain ⟨word, hw, rfl, he⟩ := h
    cases hw with
    | isIn =>
      have hn : behind? ['n', 'o', 't', 'i', 'n'] (['i', 'n'] ++ set) = none := rfl
      rw [readSetOperator, hn, behind?_append]
      exact if_pos he
    | notIn =>
      rw [readSetOperator, behind?_append]
      exact if_pos he

theorem readSet_eq_ok_iff {clause cs : List Char} {values : ExtTreeSet String} :
    readSet clause cs = .ok values ↔
      ∃ x, trim cs = '(' :: x ++ [')'] ∧ Values x values := by
  simp only [← betweenParentheses?_eq_some_iff]
  rw [readSet]
  cases betweenParentheses? (trim cs) with
  | none => simp
  | some x =>
    simp only [Option.some.injEq, exists_eq_left', values_iff]
    by_cases hx : items x = []
    · simp [hx]
    · simp [hx, eq_comm]

/-! Clauses -/

theorem behind?_bang_eq_none {k : List Char} (hk : IsKey k) (w rest : List Char) :
    behind? ['!'] (k ++ w ++ rest) = none := by
  cases k with
  | nil => exact absurd rfl hk.1
  | cons c k =>
    have hc : '!' ≠ c := fun he => (hk.2 c List.mem_cons_self).2 (by simp [← he])
    rw [List.cons_append, List.cons_append, behind?, if_neg hc]

theorem readMembership_eq_ok_iff {clause key rest : List Char} {r : Requirement} :
    readMembership clause key rest = .ok r ↔ ∃ operator set name values,
      readSetOperator rest = some (operator, set) ∧ readKey clause key = .ok name ∧
        readSet clause set = .ok values ∧ operator name values = r := by
  rw [readMembership]
  cases readSetOperator rest with
  | none => simp
  | some found =>
    obtain ⟨operator, set⟩ := found
    simp only [bind_eq_ok_iff, Option.some.injEq, Prod.mk.injEq]
    constructor
    · intro h
      obtain ⟨name, hk, values, hv, he⟩ := h
      cases he
      exact ⟨operator, set, name, values, ⟨rfl, rfl⟩, hk, hv, rfl⟩
    · intro h
      obtain ⟨_, _, name, values, ⟨rfl, rfl⟩, hk, hv, rfl⟩ := h
      exact ⟨name, hk, values, hv, rfl⟩

/-! Without an equals sign a clause has no operator that could stand inside. -/

theorem readTrimmed_of_lone_word {clause : List Char} (hb : behind? ['!'] clause = none)
    (he : '=' ∉ clause) (hw : trimStart (afterFirstWord clause) = []) :
    readTrimmed clause = (readKey clause clause).map present := by
  have hcut (mark : List Char) (hm : '=' ∈ mark) : cutAt? mark clause = none :=
    cutAt?_eq_none_of_not_mem hm he
  simp only [readTrimmed, hb, hcut ['!', '='] (by simp), hcut ['=', '='] (by simp),
    hcut ['='] (by simp), Option.none_or, hw]

theorem readTrimmed_of_words {clause : List Char} (hb : behind? ['!'] clause = none)
    (he : '=' ∉ clause) (hw : trimStart (afterFirstWord clause) ≠ []) : readTrimmed clause =
      readMembership clause (firstWord clause) (trimStart (afterFirstWord clause)) := by
  have hcut (mark : List Char) (hm : '=' ∈ mark) : cutAt? mark clause = none :=
    cutAt?_eq_none_of_not_mem hm he
  obtain ⟨c, rest, hrest⟩ := List.exists_cons_of_ne_nil hw
  simp only [readTrimmed, hb, hcut ['!', '='] (by simp), hcut ['=', '='] (by simp),
    hcut ['='] (by simp), Option.none_or, hrest]

theorem readMembership_of_parts {clause k word w x : List Char}
    {operator : String → ExtTreeSet String → Requirement} {values : ExtTreeSet String}
    (hk : IsKey k) (hword : SetWord word operator) (hw : allBlank w) (hx : Values x values) :
    readMembership clause k (word ++ (w ++ ('(' :: x ++ [')']))) =
      .ok (operator (String.ofList k) values) := by
  have hends : endsOperator (w ++ ('(' :: x ++ [')'])) := by
    cases w with
    | nil => rfl
    | cons c w =>
      have hc := allBlank_iff.mp hw c List.mem_cons_self
      simp [endsOperator, hc]
  have ht : Trimmed ('(' :: x ++ [')']) :=
    (trimmed_singleton (c := '(') rfl).enclose (List.cons_ne_nil _ _) rfl x
  have htrim : trim (w ++ ('(' :: x ++ [')'])) = '(' :: x ++ [')'] := by
    simpa using trim_append (b := []) hw ht rfl
  have hkey := readKey_append (w := []) hk rfl clause
  rw [List.append_nil] at hkey
  exact readMembership_eq_ok_iff.mpr ⟨operator, _, String.ofList k, values,
    readSetOperator_eq_some_iff.mpr ⟨word, hword, rfl, hends⟩, hkey,
    readSet_eq_ok_iff.mpr ⟨x, htrim, hx⟩, rfl⟩

theorem readTrimmed_lone_key {k : List Char} (hk : IsKey k) :
    readTrimmed k = .ok (present (String.ofList k)) := by
  have hb : behind? ['!'] k = none := by simpa using behind?_bang_eq_none hk [] []
  have he : '=' ∉ k := by simpa using hk.not_mem (w := []) rfl (c := '=') (by simp) rfl
  have hword : afterFirstWord k = [] := by
    simp only [afterFirstWord, List.dropWhile_eq_nil_iff]
    intro c hc
    simp [(hk.2 c hc).1]
  have hr := readKey_append (w := []) hk rfl k
  rw [List.append_nil] at hr
  rw [readTrimmed_of_lone_word hb he (by rw [hword]; rfl), hr]
  rfl

theorem readTrimmed_membership {k v word w x : List Char}
    {operator : String → ExtTreeSet String → Requirement} {values : ExtTreeSet String}
    (hk : IsKey k) (hv : allBlank v) (hne : v ≠ []) (hword : SetWord word operator)
    (hw : allBlank w) (hx : Values x values)
    (he : '=' ∉ k ++ v ++ (word ++ (w ++ ('(' :: x ++ [')'])))) :
    readTrimmed (k ++ v ++ (word ++ (w ++ ('(' :: x ++ [')'])))) =
      .ok (operator (String.ofList k) values) := by
  have hkb : ∀ c ∈ k, isBlank c = false := fun c hc => (hk.2 c hc).1
  have hb := behind?_bang_eq_none hk v (word ++ (w ++ ('(' :: x ++ [')'])))
  have hrest : trimStart (v ++ (word ++ (w ++ ('(' :: x ++ [')'])))) =
      word ++ (w ++ ('(' :: x ++ [')'])) := by
    refine trimStart_append hv ?_
    intro c hc
    cases hword with
    | isIn => cases hc; rfl
    | notIn => cases hc; rfl
  have hafter := afterFirstWord_append hkb hv hne (word ++ (w ++ ('(' :: x ++ [')'])))
  rw [readTrimmed_of_words hb he (by rw [hafter, hrest]; simp), hafter, hrest,
    firstWord_append hkb hv hne]
  exact readMembership_of_parts hk hword hw hx

theorem readTrimmed_of_denotes {clause : List Char} {r : Requirement} (h : Denotes clause r) :
    readTrimmed clause = .ok r := by
  cases h with
  | @absent w k hw hk =>
    have hb : behind? ['!'] ('!' :: (w ++ k)) = some (w ++ k) := behind?_append ['!'] (w ++ k)
    have ht : trim (w ++ k) = k := by
      simpa using trim_append (b := []) hw hk.trimmed rfl
    have hr : readKey ('!' :: (w ++ k)) (w ++ k) = .ok (String.ofList k) := by
      rw [readKey_eq_ok_iff, ht]
      exact ⟨hk, rfl⟩
    simp only [readTrimmed, hb, hr]
    rfl
  | @differs k w x hk hw =>
    have hb := behind?_bang_eq_none hk w (['!', '='] ++ x)
    have hd := cutAt?_append (hk.not_mem hw (c := '!') (by simp) rfl) ['='] x
    simp only [readTrimmed, hb, hd, readKey_append hk hw]
    rfl
  | @equalsTwice k w x hk hw hnd =>
    have hb := behind?_bang_eq_none hk w (['=', '='] ++ x)
    have hd := (cutAt?_eq_none_iff (List.cons_ne_nil _ _)).mpr hnd
    have he := cutAt?_append (hk.not_mem hw (c := '=') (by simp) rfl) ['='] x
    simp only [readTrimmed, hb, hd, he, Option.some_or, readKey_append hk hw]
    rfl
  | @equals k w x hk hw hnd hne =>
    have hb := behind?_bang_eq_none hk w (['='] ++ x)
    have hd := (cutAt?_eq_none_iff (List.cons_ne_nil _ _)).mpr hnd
    have he₂ := (cutAt?_eq_none_iff (List.cons_ne_nil _ _)).mpr hne
    have he₁ := cutAt?_append (hk.not_mem hw (c := '=') (by simp) rfl) [] x
    simp only [readTrimmed, hb, hd, he₂, he₁, Option.none_or, readKey_append hk hw]
    rfl
  | present hk => exact readTrimmed_lone_key hk
  | membership hk hv hne hword hw hx he => exact readTrimmed_membership hk hv hne hword hw hx he

/-- The parts of a clause without an equals sign whose key has white space and text behind it. -/
theorem denotes_of_readMembership {clause : List Char} {r : Requirement} (ht : Trimmed clause)
    (he : '=' ∉ clause) (hn : trimStart (afterFirstWord clause) ≠ [])
    (h : readMembership clause (firstWord clause) (trimStart (afterFirstWord clause)) = .ok r) :
    Denotes clause r := by
  obtain ⟨operator, set, name, values, ho, hr, hs, rfl⟩ := readMembership_eq_ok_iff.mp h
  obtain ⟨word, hword, hset, -⟩ := readSetOperator_eq_some_iff.mp ho
  obtain ⟨hk, rfl⟩ := readKey_eq_ok_iff.mp hr
  obtain ⟨x, hx, hvalues⟩ := readSet_eq_ok_iff.mp hs
  obtain ⟨v, hv, hne, hafter⟩ := exists_eq_append_trimStart_afterFirstWord hn
  obtain ⟨w, b, hw, hb, hparts⟩ := exists_eq_append_trim set
  rw [trim_of_trimmed (trimmed_firstWord clause)] at hk ⊢
  have hclause : clause = firstWord clause ++ v ++ (word ++ (w ++ trim set)) ++ b := by
    conv_lhs => rw [← firstWord_append_afterFirstWord clause, hafter, hset, hparts]
    simp only [List.append_assoc]
  have hnil : b = [] := by
    rw [hclause] at ht
    exact ht.right_eq_nil hb
  rw [hnil, List.append_nil, hx] at hclause
  have hd := Denotes.membership hk hv hne hword hw hvalues (hclause ▸ he)
  rwa [← hclause] at hd

theorem denotes_of_bang {clause key : List Char} {name : String} (ht : Trimmed clause)
    (hb : behind? ['!'] clause = some key) (hr : readKey clause key = .ok name) :
    Denotes clause (.absent name) := by
  obtain ⟨hk, rfl⟩ := readKey_eq_ok_iff.mp hr
  obtain ⟨a, w, ha, hw, he⟩ := exists_eq_append_trim key
  have hc : clause = '!' :: key := behind?_eq_some_iff.mp hb
  have hn : w = [] := by
    rw [hc, he, ← List.cons_append] at ht
    exact ht.right_eq_nil hw
  rw [hn, List.append_nil] at he
  have hd := Denotes.absent ha hk
  rwa [← he, ← hc] at hd

theorem denotes_of_readTrimmed {clause : List Char} {r : Requirement} (ht : Trimmed clause)
    (h : readTrimmed clause = .ok r) : Denotes clause r := by
  -- one case for each operator, in the order in which they are tried
  cases hb : behind? ['!'] clause with
  | some key =>
    simp only [readTrimmed, hb] at h
    obtain ⟨name, hr, rfl⟩ := map_eq_ok_iff.mp h
    exact denotes_of_bang ht hb hr
  | none =>
  cases hd : cutAt? ['!', '='] clause with
  | some cut =>
    simp only [readTrimmed, hb, hd] at h
    obtain ⟨name, hr, rfl⟩ := map_eq_ok_iff.mp h
    obtain ⟨k, w, hk, hw, rfl, hc⟩ := exists_key_of_cutAt? ht hd hr
    have hden := Denotes.differs (x := cut.2) hk hw
    rwa [← hc] at hden
  | none =>
  have hnd := (cutAt?_eq_none_iff (by simp)).mp hd
  cases he₂ : cutAt? ['=', '='] clause with
  | some cut =>
    simp only [readTrimmed, hb, hd, he₂, Option.some_or] at h
    obtain ⟨name, hr, rfl⟩ := map_eq_ok_iff.mp h
    obtain ⟨k, w, hk, hw, rfl, hc⟩ := exists_key_of_cutAt? ht he₂ hr
    have hden := Denotes.equalsTwice (x := cut.2) hk hw (hc ▸ hnd)
    rwa [← hc] at hden
  | none =>
  have hne₂ := (cutAt?_eq_none_iff (by simp)).mp he₂
  cases he₁ : cutAt? ['='] clause with
  | some cut =>
    simp only [readTrimmed, hb, hd, he₂, he₁, Option.none_or] at h
    obtain ⟨name, hr, rfl⟩ := map_eq_ok_iff.mp h
    obtain ⟨k, w, hk, hw, rfl, hc⟩ := exists_key_of_cutAt? ht he₁ hr
    have hden := Denotes.equals (x := cut.2) hk hw (hc ▸ hnd) (hc ▸ hne₂)
    rwa [← hc] at hden
  | none =>
  have hne := cutAt?_singleton_eq_none_iff.mp he₁
  by_cases hw : trimStart (afterFirstWord clause) = []
  · rw [readTrimmed_of_lone_word hb hne hw] at h
    obtain ⟨name, hr, rfl⟩ := map_eq_ok_iff.mp h
    obtain ⟨hk, rfl⟩ := readKey_eq_ok_iff.mp hr
    rw [trim_of_trimmed ht] at hk ⊢
    exact .present hk
  · rw [readTrimmed_of_words hb hne hw] at h
    exact denotes_of_readMembership ht hne hw h

theorem read_eq_ok_iff {p : List Char} {r : Requirement} :
    read p = .ok r ↔ Denotes (trim p) r :=
  ⟨denotes_of_readTrimmed (trimmed_trim p), readTrimmed_of_denotes⟩

end Requirement

namespace Selector

theorem read_eq_ok_iff {text : String} {s : Selector} :
    read text = .ok s ↔ ∃ ps, CutsInto text.toList ps ∧
      List.Forall₂ (fun p r => Requirement.read p = .ok r) (ps.filter (!allBlank ·))
        s.requirements := by
  rw [read, bind_eq_ok_iff]
  constructor
  · intro h
    obtain ⟨parts, hp, h⟩ := h
    obtain ⟨requirements, hr, he⟩ := bind_eq_ok_iff.mp h
    obtain ⟨ps, hc, rfl⟩ := clauses_eq_ok_iff.mp hp
    cases he
    exact ⟨ps, hc, mapM_eq_ok_iff.mp hr⟩
  · intro h
    obtain ⟨ps, hc, hr⟩ := h
    exact ⟨_, clauses_eq_ok_iff.mpr ⟨ps, hc, rfl⟩,
      bind_eq_ok_iff.mpr ⟨s.requirements, mapM_eq_ok_iff.mpr hr, rfl⟩⟩

/-- A text is read as a selector if and only if it leaves no parenthesis open and the pieces between
the commas outside all parentheses, the blank ones left out, denote its requirements in order. -/
theorem read_iff_grammar (text : String) (s : Selector) :
    read text = .ok s ↔ Nests 0 text.toList 0 ∧ ∃ ps, CutsInto text.toList ps ∧
      List.Forall₂ (fun p r => Requirement.Denotes (trim p) r) (ps.filter (!allBlank ·))
        s.requirements := by
  rw [read_eq_ok_iff, nests_iff]
  simp only [Requirement.read_eq_ok_iff]
  constructor
  · intro h
    obtain ⟨ps, hc, hr⟩ := h
    exact ⟨(cutsInto_iff.mp hc).1, ps, hc, hr⟩
  · intro h
    exact h.2

/-- The first parenthesis closes nothing, so the comma behind it cuts. Those in the list do not, and
a blank piece denotes nothing. A list that is left open is no selector. -/
theorem read_iff_grammar_birds :
    read "size=3), bird in ( goose ,, swan),  ,! tame " =
      .ok ⟨[.equals "size" "3)", .isIn "bird" (.ofList ["goose", "swan"]), .absent "tame"]⟩ ∧
    ∀ s, read "size=3), bird in ( goose ,, swan" ≠ .ok s := by
  have hsize : Requirement.Denotes (trim "size=3)".toList) (.equals "size" "3)") :=
    .equals (k := "size".toList) (w := []) (x := "3)".toList)
      (Requirement.isKey_iff.mpr (by decide)) rfl (by decide) (by decide)
  have hvalues : Requirement.Values " goose ,, swan".toList (.ofList ["goose", "swan"]) :=
    Requirement.values_iff.mpr ⟨by decide, by decide +kernel⟩
  have hbird : Requirement.Denotes (trim " bird in ( goose ,, swan)".toList)
      (.isIn "bird" (.ofList ["goose", "swan"])) :=
    .membership (k := "bird".toList) (v := [' ']) (w := [' '])
      (Requirement.isKey_iff.mpr (by decide)) rfl (by decide) .isIn rfl hvalues (by decide)
  have htame : Requirement.Denotes (trim "! tame ".toList) (.absent "tame") :=
    .absent (w := [' ']) (k := "tame".toList) rfl (Requirement.isKey_iff.mpr (by decide))
  constructor
  · refine (read_iff_grammar _ _).mpr ⟨nests_iff.mpr (by decide), ?_⟩
    refine ⟨["size=3)".toList, " bird in ( goose ,, swan)".toList, "  ".toList, "! tame ".toList],
      cutsInto_iff.mpr ⟨by decide, by decide⟩, ?_⟩
    exact .cons hsize (.cons hbird (.cons htame .nil))
  · intro s h
    obtain ⟨hn, -⟩ := (read_iff_grammar _ _).mp h
    exact absurd (nests_iff.mp hn) (by decide)

end Selector
end DuckCensus
