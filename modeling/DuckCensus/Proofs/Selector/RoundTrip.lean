import DuckCensus.Proofs.Selector.Grammar

/-! Which selectors are read back from the text that they are written as, and that only the values
of a selector that was read can keep it from being one of them. -/
namespace DuckCensus
open Std Text Selector

namespace Requirement

def Plain (marks v : List Char) : Prop := Trimmed v ∧ ∀ c ∈ v, c ∉ marks

/-- A value that begins with an equals sign or holds two in a row changes the operator. -/
def Settled (v : List Char) : Prop := v.head? ≠ some '=' ∧ ¬ ['=', '='] <:+: v

def PrintableSet (values : ExtTreeSet String) : Prop :=
  values ≠ ∅ ∧ ∀ value ∈ values, value.toList ≠ [] ∧ Plain ['(', ')', ',', '='] value.toList

def Printable : Requirement → Prop
  | isIn key values => IsKey key.toList ∧ PrintableSet values
  | notIn key values => IsKey key.toList ∧ PrintableSet values
  | equals key value => IsKey key.toList ∧ Plain ['(', ')', ','] value.toList ∧
      Settled value.toList ∧ ¬ ['!', '='] <:+: value.toList
  | differs key value => IsKey key.toList ∧ Plain ['(', ')', ','] value.toList
  | present key => IsKey key.toList
  | absent key => IsKey key.toList

def HasValue : Requirement → String → Prop
  | isIn _ values, v => v ∈ values
  | notIn _ values, v => v ∈ values
  | equals _ value, v => v = value
  | differs _ value, v => v = value
  | present _, _ => False
  | absent _, _ => False

/-- What reading does not rule out by itself. -/
def Tame (r : Requirement) : Prop :=
  (∀ v, r.HasValue v → '(' ∉ v.toList ∧ ')' ∉ v.toList) ∧
    ∀ key value, r = .equals key value → Settled value.toList

structure Writes (p : List Char) (r : Requirement) : Prop where
  trimmed : Trimmed p
  piece : IsPieceFrom 0 p
  denotes : Denotes p r

/-! Plain texts -/

theorem Plain.append {marks a b : List Char} (ha : Plain marks a) (hb : Plain marks b) :
    Plain marks (a ++ b) := by
  refine ⟨ha.1.append hb.1, ?_⟩
  intro c hc
  cases List.mem_append.mp hc with
  | inl hc => exact ha.2 c hc
  | inr hc => exact hb.2 c hc

theorem IsKey.plain {k : List Char} (h : IsKey k) : Plain ['(', ')', ','] k := by
  refine ⟨h.trimmed, ?_⟩
  intro c hc hm
  refine (h.2 c hc).2 ?_
  simp only [List.mem_cons] at hm ⊢
  grind

theorem Plain.isPieceFrom {p : List Char} (h : Plain ['(', ')', ','] p) : IsPieceFrom 0 p := by
  have hm (c : Char) (hc : c ∈ ['(', ')', ',']) : c ∉ p := fun hp => h.2 c hp hc
  have hi : IsPieceFrom 0 (p ++ []) ↔ IsPieceFrom 0 [] :=
    isPieceFrom_append_iff (hm '(' (by simp)) (hm ')' (by simp)) fun _ => hm ',' (by simp)
  rw [List.append_nil] at hi
  exact hi.mpr (isPieceFrom_nil.mpr rfl)

theorem Plain.writes {p : List Char} {r : Requirement} (h : Plain ['(', ')', ','] p)
    (hd : Denotes p r) : Writes p r :=
  ⟨h.1, h.isPieceFrom, hd⟩

theorem plain_singleton {marks : List Char} {c : Char} (hb : isBlank c = false) (hc : c ∉ marks) :
    Plain marks [c] :=
  ⟨trimmed_singleton hb, fun d hd => by rwa [List.mem_singleton.mp hd]⟩

theorem plain_bang : Plain ['(', ')', ','] ['!'] := plain_singleton rfl (by simp)

theorem plain_equals : Plain ['(', ')', ','] ['='] := plain_singleton rfl (by simp)

/-! Printed requirements -/

theorem toList_commas (xs : List String) :
    (",".intercalate xs).toList = [','].intercalate (xs.map String.toList) := by
  rw [String.toList_intercalate]
  rfl

def PrintableList (xs : List String) : Prop :=
  ∀ value ∈ xs, value.toList ≠ [] ∧ Plain ['(', ')', ',', '='] value.toList

theorem PrintableSet.toList {values : ExtTreeSet String} (h : PrintableSet values) :
    PrintableList values.toList :=
  fun value hv => h.2 value (ExtTreeSet.mem_toList.mp hv)

theorem PrintableList.not_mem {xs : List String} {c : Char} (h : PrintableList xs)
    (hc : c ∈ ['(', ')', '=']) : c ∉ (",".intercalate xs).toList := by
  rw [toList_commas]
  intro hm
  have hne : c ≠ ',' := by grind
  obtain he | ⟨part, hp, hin⟩ := mem_of_mem_intercalate hm
  · exact hne he
  · obtain ⟨value, hv, rfl⟩ := List.mem_map.mp hp
    exact (h value hv).2.2 c hin (by grind)

/-- Whichever set has the members of the list is read from it. -/
theorem PrintableList.values {xs : List String} {values : ExtTreeSet String}
    (h : PrintableList xs) (hne : xs ≠ []) (hm : ∀ value, value ∈ values ↔ value ∈ xs) :
    Values (",".intercalate xs).toList values := by
  have hitems : items (",".intercalate xs).toList = xs.map String.toList := by
    rw [toList_commas]
    refine items_intercalate (fun hn => hne (List.map_eq_nil_iff.mp hn)) ?_
    intro part hp
    obtain ⟨value, hv, rfl⟩ := List.mem_map.mp hp
    obtain ⟨hn, ht, hmark⟩ := h value hv
    exact ⟨hn, ht, fun hc => hmark ',' hc (by simp)⟩
  constructor
  · rintro rfl
    obtain ⟨value, hv⟩ := List.exists_mem_of_ne_nil xs hne
    exact ExtTreeSet.not_mem_empty ((hm value).mpr hv)
  · intro value
    rw [← toList_mem_items_iff, hitems, List.mem_map]
    simp only [String.toList_inj, exists_eq_right, hm]

/-- The list behind a set operator holds no mark of its own but commas. -/
theorem writes_membership {key : String} {word x : List Char} {values : ExtTreeSet String}
    {operator : String → ExtTreeSet String → Requirement} (hk : IsKey key.toList)
    (hw : SetWord word operator) (hx : Values x values) (hm : ∀ c ∈ ['(', ')', '='], c ∉ x) :
    Writes (key.toList ++ [' '] ++ (word ++ ([' '] ++ ('(' :: x ++ [')']))))
      (operator key values) := by
  have hkey (c : Char) (hc : c ∈ ['(', ')', '=', '!', ',']) (hb : isBlank c = false) :
      c ∉ key.toList ++ [' '] := hk.not_mem rfl hc hb
  refine ⟨?_, ?_, ?_⟩
  · have ht := hk.trimmed.enclose hk.1 (z := ')') (by decide)
      ([' '] ++ (word ++ ([' '] ++ ('(' :: x))))
    simpa only [List.append_assoc] using ht
  · have hbody : IsPieceFrom 1 (x ++ [')']) := by
      rw [isPieceFrom_append_iff (hm '(' (by simp)) (hm ')' (by simp)) (by simp)]
      exact isPieceFrom_cons.mpr ⟨by simp, isPieceFrom_nil.mpr rfl⟩
    have hset : IsPieceFrom 0 ('(' :: x ++ [')']) := isPieceFrom_cons.mpr ⟨by simp, hbody⟩
    rwa [isPieceFrom_append_iff (hkey '(' (by simp) rfl) (hkey ')' (by simp) rfl)
        fun _ => hkey ',' (by simp) rfl,
      isPieceFrom_append_iff (hw.not_mem (by simp)) (hw.not_mem (by simp))
        fun _ => hw.not_mem (by simp),
      isPieceFrom_append_iff (by simp) (by simp) fun _ => by simp]
  · have he : '=' ∉ key.toList ++ [' '] ++ (word ++ ([' '] ++ ('(' :: x ++ [')']))) := by
      rw [List.mem_append, not_or]
      refine ⟨hkey '=' (by simp) rfl, ?_⟩
      have hword : '=' ∉ word := hw.not_mem (by simp)
      have hvalues : '=' ∉ x := hm '=' (by simp)
      simp [hword, hvalues]
    have hd := Denotes.membership hk rfl (by simp) hw rfl hx he
    rwa [String.ofList_toList] at hd

theorem writes_set {key : String} {word : List Char} {values : ExtTreeSet String}
    {operator : String → ExtTreeSet String → Requirement} (hk : IsKey key.toList)
    (hw : SetWord word operator) (hv : PrintableSet values) :
    Writes (key.toList ++ [' '] ++ (word ++ ([' '] ++ ('(' :: (valueList values).toList ++ [')']))))
      (operator key values) := by
  have hne : values.toList ≠ [] := fun hn => hv.1 (ExtTreeSet.toList_eq_nil_iff.mp hn)
  exact writes_membership hk hw (hv.toList.values hne fun _ => ExtTreeSet.mem_toList.symm)
    fun _ => hv.toList.not_mem

/-- No operator that is tried before the equals sign stands in the text. -/
theorem writes_equals {key value : String} (hk : IsKey key.toList)
    (hv : Plain ['(', ')', ','] value.toList) (hs : Settled value.toList)
    (hb : ¬ ['!', '='] <:+: value.toList) :
    Writes (key.toList ++ [] ++ (['='] ++ value.toList)) (equals key value) := by
  have hin (m : Char) (hm : m ∈ ['(', ')', '=', '!', ',']) (hblank : isBlank m = false) :
      [m, '='] <:+: key.toList ++ [] ++ (['='] ++ value.toList) ↔
        (m = '=' ∧ ['='] <+: value.toList) ∨ [m, '='] <:+: value.toList := by
    rw [infix_append_iff (hk.not_mem rfl hm hblank), List.singleton_append, List.infix_cons_iff,
      List.cons_prefix_cons]
  have hnb : ¬ ['!', '='] <:+: key.toList ++ [] ++ (['='] ++ value.toList) := by
    rw [hin '!' (by simp) rfl, not_or]
    exact ⟨fun hp => absurd hp.1 (by decide), hb⟩
  have hne : ¬ ['=', '='] <:+: key.toList ++ [] ++ (['='] ++ value.toList) := by
    rw [hin '=' (by simp) rfl, not_or]
    refine ⟨fun hp => hs.1 ?_, hs.2⟩
    obtain ⟨rest, hr⟩ := hp.2
    rw [← hr]
    rfl
  have hp := (hk.plain.append plain_equals).append hv
  have hd := Denotes.equals hk rfl hnb hne
  rw [String.ofList_toList, trim_of_trimmed hv.1, String.ofList_toList] at hd
  rw [List.append_assoc] at hp
  rw [List.append_nil] at hd ⊢
  exact hp.writes hd

theorem writes_differs {key value : String} (hk : IsKey key.toList)
    (hv : Plain ['(', ')', ','] value.toList) :
    Writes (key.toList ++ [] ++ (['!', '='] ++ value.toList)) (differs key value) := by
  have hp := (hk.plain.append (plain_bang.append plain_equals)).append hv
  have hd := Denotes.differs (w := []) (x := value.toList) hk rfl
  rw [String.ofList_toList, trim_of_trimmed hv.1, String.ofList_toList] at hd
  rw [List.append_assoc] at hp
  rw [List.append_nil] at hd ⊢
  exact hp.writes hd

theorem writes_text {r : Requirement} (h : r.Printable) : Writes r.text.toList r := by
  cases r with
  | isIn key values =>
    have hw := writes_set h.1 .isIn h.2
    simpa [text] using hw
  | notIn key values =>
    have hw := writes_set h.1 .notIn h.2
    simpa [text] using hw
  | equals key value =>
    obtain ⟨hk, hv, hs, hb⟩ := h
    have hw := writes_equals hk hv hs hb
    simpa [text] using hw
  | differs key value =>
    have hw := writes_differs h.1 h.2
    simpa [text] using hw
  | present key =>
    have hd := Denotes.present h
    rw [String.ofList_toList] at hd
    exact h.plain.writes hd
  | absent key =>
    have hp := plain_bang.append h.plain
    have hd := Denotes.absent (w := []) rfl h
    rw [String.ofList_toList] at hd
    have hw : Writes ('!' :: key.toList) (absent key) := hp.writes hd
    simpa [text] using hw

theorem Denotes.ne_nil {p : List Char} {r : Requirement} (h : Denotes p r) : p ≠ [] := by
  cases h with
  | absent => exact List.cons_ne_nil _ _
  | differs hk => simp
  | equalsTwice hk => simp
  | equals hk => simp
  | present hk => exact hk.1
  | membership hk => simp [hk.1]

theorem Writes.read {p : List Char} {r : Requirement} (h : Writes p r) :
    read p = .ok r := by
  rw [read_eq_ok_iff, trim_of_trimmed h.trimmed]
  exact h.denotes

theorem Writes.not_allBlank {p : List Char} {r : Requirement} (h : Writes p r) :
    ¬ allBlank p := by
  rw [← trim_eq_nil_iff, trim_of_trimmed h.trimmed]
  exact h.denotes.ne_nil

/-! Requirements that were read -/

/-- A comma in the value would have to stand in parentheses. -/
theorem plain_value {p k w operator x : List Char} (hp : IsPieceFrom 0 p) (hk : IsKey k)
    (hw : allBlank w) (ho : '(' ∉ operator) (he : trim p = k ++ w ++ (operator ++ x))
    (hx : '(' ∉ trim x ∧ ')' ∉ trim x) : Plain ['(', ')', ','] (trim x) := by
  have hopen : '(' ∉ p := by
    intro hm
    rw [← mem_trim_iff (c := '(') rfl, he] at hm
    cases List.mem_append.mp hm with
    | inl hm => exact hk.not_mem hw (by simp) rfl hm
    | inr hm =>
      cases List.mem_append.mp hm with
      | inl hm => exact ho hm
      | inr hm => exact hx.1 ((mem_trim_iff (c := '(') rfl x).mpr hm)
  have hcomma : ',' ∉ trim x := by
    intro hc
    have hin : ',' ∈ trim p := by
      rw [he]
      exact List.mem_append_right _ (List.mem_append_right _ (trim_subset x hc))
    exact hp.comma_not_mem hopen (trim_subset p hin)
  refine ⟨trimmed_trim x, ?_⟩
  intro c hc hm
  simp only [List.mem_cons, List.not_mem_nil, or_false] at hm
  obtain rfl | rfl | rfl := hm
  · exact hx.1 hc
  · exact hx.2 hc
  · exact hcomma hc

theorem printable_equals {p k w operator x : List Char} (hp : IsPieceFrom 0 p) (hk : IsKey k)
    (hw : allBlank w) (ho : '(' ∉ operator) (he : trim p = k ++ w ++ (operator ++ x))
    (hb : ¬ ['!', '='] <:+: k ++ w ++ (operator ++ x))
    (ht : Tame (.equals (String.ofList k) (String.ofList (trim x)))) :
    Printable (.equals (String.ofList k) (String.ofList (trim x))) := by
  obtain ⟨hv, hs⟩ := ht
  have hx := hv _ rfl
  have hset := hs _ _ rfl
  rw [String.toList_ofList] at hx hset
  have hnb : ¬ ['!', '='] <:+: trim x := fun hi =>
    hb ((hi.trans (trim_infix_self x)).trans ⟨k ++ w ++ operator, [], by simp⟩)
  simp only [Printable, String.toList_ofList]
  exact ⟨hk, plain_value hp hk hw ho he hx, hset, hnb⟩

theorem printableSet_of_values {x : List Char} {values : ExtTreeSet String} (hx : Values x values)
    (he : '=' ∉ x) (hv : ∀ v : String, v ∈ values → '(' ∉ v.toList ∧ ')' ∉ v.toList) :
    PrintableSet values := by
  refine ⟨hx.1, ?_⟩
  intro value hin
  obtain ⟨hne, ht, hcomma, hsub⟩ := of_mem_items (toList_mem_items_iff.mpr ((hx.2 value).mp hin))
  obtain ⟨ho, hc⟩ := hv value hin
  refine ⟨hne, ht, ?_⟩
  intro c hm hmark
  simp only [List.mem_cons, List.not_mem_nil, or_false] at hmark
  obtain rfl | rfl | rfl | rfl := hmark
  · exact ho hm
  · exact hc hm
  · exact hcomma hm
  · exact he (hsub hm)

theorem printable_of_denotes {p : List Char} {r : Requirement} (hp : IsPieceFrom 0 p)
    (hd : Denotes (trim p) r) (ht : r.Tame) : r.Printable := by
  generalize he : trim p = q at hd
  cases hd with
  | absent hw hk =>
    rw [Printable, String.toList_ofList]
    exact hk
  | differs hk hw =>
    have hx := ht.1 _ rfl
    rw [String.toList_ofList] at hx
    simp only [Printable, String.toList_ofList]
    exact ⟨hk, plain_value hp hk hw (by simp) he hx⟩
  | equalsTwice hk hw hb => exact printable_equals hp hk hw (by simp) he hb ht
  | equals hk hw hb hne => exact printable_equals hp hk hw (by simp) he hb ht
  | present hk =>
    rw [Printable, String.toList_ofList]
    exact hk
  | membership hk hv hne hword hw hx heq =>
    have hex := fun hm => heq (List.mem_append_right _ (List.mem_append_right _
      (List.mem_append_right _ (List.mem_append_left _ (List.mem_cons_of_mem _ hm)))))
    cases hword with
    | isIn =>
      rw [Printable, String.toList_ofList]
      exact ⟨hk, printableSet_of_values hx hex ht.1⟩
    | notIn =>
      rw [Printable, String.toList_ofList]
      exact ⟨hk, printableSet_of_values hx hex ht.1⟩

end Requirement

namespace Selector

def Printable (s : Selector) : Prop := ∀ r ∈ s.requirements, r.Printable

theorem toList_text (s : Selector) :
    s.text.toList = [','].intercalate (s.requirements.map (·.text.toList)) := by
  rw [Selector.text, Requirement.toList_commas, List.map_map]
  rfl

/-- The printed requirements are the pieces of the text, which without any has one blank piece. -/
theorem read_text {s : Selector} (h : s.Printable) : read s.text = .ok s := by
  have hw (r : Requirement) (hr : r ∈ s.requirements) :
      Requirement.Writes r.text.toList r :=
    Requirement.writes_text (h r hr)
  rw [read_eq_ok_iff, toList_text]
  by_cases hn : s.requirements = []
  · refine ⟨[[]], ⟨by simp, by simp [hn], ?_⟩, by simp [hn, allBlank]⟩
    intro p hp
    rw [List.mem_singleton.mp hp]
    exact isPieceFrom_nil.mpr rfl
  · refine ⟨s.requirements.map (·.text.toList), ⟨by simpa using hn, rfl, ?_⟩, ?_⟩
    · intro p hp
      obtain ⟨r, hr, rfl⟩ := List.mem_map.mp hp
      exact (hw r hr).piece
    · have hf : (s.requirements.map (·.text.toList)).filter (!allBlank ·) =
          s.requirements.map (·.text.toList) := by
        refine List.filter_eq_self.mpr ?_
        intro p hp
        obtain ⟨r, hr, rfl⟩ := List.mem_map.mp hp
        simp [(hw r hr).not_allBlank]
      rw [hf, List.forall₂_map_left_iff, List.forall₂_same]
      intro r hr
      exact (hw r hr).read

theorem printable_of_read {text : String} {s : Selector} (h : read text = .ok s)
    (ht : ∀ r ∈ s.requirements, r.Tame) : s.Printable := by
  obtain ⟨ps, hc, hr⟩ := read_eq_ok_iff.mp h
  intro r hin
  obtain ⟨p, hp, hread⟩ := exists_mem_of_forall₂ hr r hin
  have hpiece : IsPieceFrom 0 p := hc.2.2 p (List.mem_of_mem_filter hp)
  exact Requirement.printable_of_denotes hpiece (Requirement.read_eq_ok_iff.mp hread) (ht r hin)

/-- Printable selectors are read back from their own text. A selector read from any text is
printable if no value holds a parenthesis and no equals sign follows the operator too closely. -/
theorem read_text_round_trip :
    (∀ s : Selector, s.Printable → read s.text = .ok s) ∧
      ∀ (text : String) (s : Selector), read text = .ok s → (∀ r ∈ s.requirements, r.Tame) →
        s.Printable ∧ read s.text = .ok s := by
  refine ⟨fun s hp => read_text hp, ?_⟩
  intro text s h ht
  have hp := printable_of_read h ht
  exact ⟨hp, read_text hp⟩

theorem read_text_differs_present :
    read " app  !=mallard ,, tier" = .ok ⟨[.differs "app" "mallard", .present "tier"]⟩ ∧
      Printable ⟨[.differs "app" "mallard", .present "tier"]⟩ ∧
      read (text ⟨[.differs "app" "mallard", .present "tier"]⟩) =
        .ok ⟨[.differs "app" "mallard", .present "tier"]⟩ := by
  have h : read " app  !=mallard ,, tier" =
      .ok ⟨[.differs "app" "mallard", .present "tier"]⟩ := by rfl
  refine ⟨h, read_text_round_trip.2 _ _ h ?_⟩
  simp [Requirement.Tame, Requirement.HasValue]

end Selector
end DuckCensus
