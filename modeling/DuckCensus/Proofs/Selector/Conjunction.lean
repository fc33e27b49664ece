import DuckCensus.Proofs.Selector.Grammar

/-! A comma between two selector texts asks for both. The texts are read one after the other, except
that parentheses left open at the end are found before anything is read. -/
namespace DuckCensus.Selector
open Std Text

def Vacant (cs : List Char) : Prop := ∀ c ∈ cs, isBlank c ∨ c = ','

theorem Vacant.pieces {cs : List Char} (h : Vacant cs) :
    endDepth 0 cs = 0 ∧ ∀ p ∈ pieces 0 cs, allBlank p := by
  induction cs with
  | nil => exact ⟨rfl, by simp [Selector.pieces, allBlank]⟩
  | cons c cs ih =>
    obtain ⟨hc, hcs⟩ := List.forall_mem_cons.mp h
    obtain ⟨hd, hp⟩ := ih hcs
    cases hc with
    | inl hb =>
      have hk : c ≠ ',' := ne_of_isBlank hb rfl
      have hdepth : depthAfter 0 c = 0 := by
        rw [depthAfter, if_neg (ne_of_isBlank hb rfl), if_neg (ne_of_isBlank hb rfl)]
      obtain ⟨p, ps, he⟩ := List.exists_cons_of_ne_nil (pieces_ne_nil 0 cs)
      rw [he] at hp
      obtain ⟨hpb, hps⟩ := List.forall_mem_cons.mp hp
      rw [endDepth_cons, Selector.pieces, if_neg fun hn => hk hn.1, hdepth, he]
      refine ⟨hd, List.forall_mem_cons.mpr ⟨?_, hps⟩⟩
      exact allBlank_iff.mpr (List.forall_mem_cons.mpr ⟨hb, allBlank_iff.mp hpb⟩)
    | inr hk =>
      rw [hk, endDepth_cons, depthAfter_comma, pieces_comma]
      exact ⟨hd, List.forall_mem_cons.mpr ⟨rfl, hp⟩⟩

/-- A text with blank pieces only is vacant. -/
theorem vacant_of_pieces {cs : List Char} (h : ∀ p ∈ pieces 0 cs, allBlank p) : Vacant cs := by
  intro c hc
  rw [← intercalate_pieces 0 cs] at hc
  obtain rfl | ⟨p, hp, hm⟩ := mem_of_mem_intercalate hc
  · exact Or.inr rfl
  · exact Or.inl (allBlank_iff.mp (h p hp) c hm)

section Reading
variable {a b text : String}

/-- The clauses of a text that ends outside all parentheses are read in order. -/
theorem read_of_closed (h : endDepth 0 text.toList = 0) :
    read text = (((pieces 0 text.toList).filter (!allBlank ·)).mapM Requirement.read).map mk := by
  rw [read, clauses, if_pos h]
  rfl

theorem read_of_open (h : endDepth 0 text.toList ≠ 0) :
    read text =
      .error ⟨.unterminatedSet, String.ofList (trim ((pieces 0 text.toList).getLastD []))⟩ := by
  rw [read, clauses, if_neg h]
  rfl

theorem Vacant.read (h : Vacant text.toList) : read text = .ok ⟨[]⟩ := by
  have hnone : (Selector.pieces 0 text.toList).filter (!allBlank ·) = [] := by
    rw [List.filter_eq_nil_iff]
    intro p hp
    simp [h.pieces.2 p hp]
  rw [read_of_closed h.pieces.1, hnone]
  rfl

theorem toList_comma (a b : String) : (a ++ "," ++ b).toList = a.toList ++ ',' :: b.toList := by
  simp

theorem endDepth_comma (h : endDepth 0 a.toList = 0) :
    endDepth 0 (a ++ "," ++ b).toList = endDepth 0 b.toList := by
  rw [toList_comma, endDepth_append, h, endDepth_cons, depthAfter_comma]

/-- What is found open at the end does not depend on the text before. -/
theorem read_comma_of_open (ha : endDepth 0 a.toList = 0) (hb : endDepth 0 b.toList ≠ 0) :
    read (a ++ "," ++ b) = read b := by
  have hlast : (pieces 0 (a ++ "," ++ b).toList).getLastD [] =
      (pieces 0 b.toList).getLastD [] := by
    obtain ⟨p, ps, hp⟩ := List.exists_cons_of_ne_nil (pieces_ne_nil 0 b.toList)
    rw [toList_comma, pieces_append ha, hp]
    simp [List.getLastD_eq_getLast?, List.getLast?_append, List.getLast?_cons]
  rw [read_of_open hb, read_of_open (by rwa [endDepth_comma ha]), hlast]

theorem read_comma_of_closed (ha : endDepth 0 a.toList = 0) (hb : endDepth 0 b.toList = 0) :
    read (a ++ "," ++ b) = do
      let s ← read a
      let t ← read b
      return ⟨s.requirements ++ t.requirements⟩ := by
  rw [read_of_closed ha, read_of_closed hb, read_of_closed (by rwa [endDepth_comma ha]),
    toList_comma, pieces_append ha, List.filter_append, List.mapM_append]
  cases ((pieces 0 a.toList).filter (!allBlank ·)).mapM Requirement.read with
  | error fault => rfl
  | ok rs =>
    cases ((pieces 0 b.toList).filter (!allBlank ·)).mapM Requirement.read with
    | error fault => rfl
    | ok rs' => rfl

/-- Reading is decided from left to right. -/
theorem read_comma_of_error {fault : Fault} (ha : endDepth 0 a.toList = 0)
    (hb : endDepth 0 b.toList = 0) (h : read a = .error fault) :
    read (a ++ "," ++ b) = .error fault := by
  rw [read_comma_of_closed ha hb, h]
  rfl

theorem read_comma_of_ok {s : Selector} (ha : endDepth 0 a.toList = 0)
    (hb : endDepth 0 b.toList = 0) (h : read a = .ok s) :
    read (a ++ "," ++ b) = (read b).map fun t => ⟨s.requirements ++ t.requirements⟩ := by
  rw [read_comma_of_closed ha hb, h]
  cases read b with
  | error fault => rfl
  | ok t => rfl

/-- A text that is read ends outside all parentheses. -/
theorem endDepth_of_read {s : Selector} (h : read a = .ok s) : endDepth 0 a.toList = 0 := by
  obtain ⟨ps, hc, -⟩ := read_eq_ok_iff.mp h
  exact (cutsInto_iff.mp hc).1

theorem read_comma_of_vacant_left (h : Vacant a.toList) : read (a ++ "," ++ b) = read b := by
  by_cases hb : endDepth 0 b.toList = 0
  · rw [read_comma_of_ok h.pieces.1 hb h.read]
    cases read b with
    | error fault => rfl
    | ok t => rfl
  · exact read_comma_of_open h.pieces.1 hb

theorem read_comma_of_vacant_right (ha : endDepth 0 a.toList = 0) (h : Vacant b.toList) :
    read (a ++ "," ++ b) = read a := by
  cases hr : read a with
  | error fault => exact read_comma_of_error ha h.pieces.1 hr
  | ok s =>
    rw [read_comma_of_ok ha h.pieces.1 hr, h.read]
    simp [Except.map]

end Reading

theorem selects_append (rs rs' : List Requirement) (labels : Labels) :
    (mk (rs ++ rs')).selects labels ↔ (mk rs).selects labels ∧ (mk rs').selects labels := by
  simp [selects]

/-- Two texts with a comma between them: parentheses that the second leaves open are the fault,
then whatever is wrong with the first, then whatever is wrong with the second; and else the
requirements of both are asked for. -/
theorem read_conjunction (a b : String) (h : endDepth 0 a.toList = 0) :
    (endDepth 0 b.toList ≠ 0 → ∃ requirement,
      read b = .error ⟨.unterminatedSet, requirement⟩ ∧
      read (a ++ "," ++ b) = .error ⟨.unterminatedSet, requirement⟩) ∧
    (endDepth 0 b.toList = 0 →
      (∀ fault, read a = .error fault → read (a ++ "," ++ b) = .error fault) ∧
      (∀ s fault, read a = .ok s → read b = .error fault →
        read (a ++ "," ++ b) = .error fault) ∧
      ∀ s t, read a = .ok s → read b = .ok t →
        read (a ++ "," ++ b) = .ok ⟨s.requirements ++ t.requirements⟩) ∧
    (∀ s t, read a = .ok s → read b = .ok t → ∃ both swapped,
      read (a ++ "," ++ b) = .ok both ∧ read (b ++ "," ++ a) = .ok swapped ∧
      ∀ labels, (both.selects labels ↔ s.selects labels ∧ t.selects labels) ∧
        (swapped.selects labels ↔ both.selects labels)) ∧
    (Vacant a.toList → read (a ++ "," ++ b) = read b) ∧
    (Vacant b.toList → read (a ++ "," ++ b) = read a) := by
  refine ⟨?_, ?_, ?_, read_comma_of_vacant_left, read_comma_of_vacant_right h⟩
  · intro hb
    exact ⟨_, read_of_open hb, (read_comma_of_open h hb).trans (read_of_open hb)⟩
  · intro hb
    refine ⟨fun fault => read_comma_of_error h hb, ?_, ?_⟩
    · intro s fault hs ht
      rw [read_comma_of_ok h hb hs, ht]
      rfl
    · intro s t hs ht
      rw [read_comma_of_ok h hb hs, ht]
      rfl
  · intro s t hs ht
    have hb := endDepth_of_read ht
    refine ⟨⟨s.requirements ++ t.requirements⟩, ⟨t.requirements ++ s.requirements⟩, ?_, ?_, ?_⟩
    · rw [read_comma_of_ok h hb hs, ht]
      rfl
    · rw [read_comma_of_ok hb h ht, hs]
      rfl
    · intro labels
      rw [selects_append, selects_append]
      exact ⟨Iff.rfl, and_comm⟩

/-- The parenthesis that closes nothing does not matter to the text behind the comma. -/
theorem read_conjunction_birds :
    (∃ requirement, read "bird in (goose" = .error ⟨.unterminatedSet, requirement⟩ ∧
      read ("=yes)" ++ "," ++ "bird in (goose") = .error ⟨.unterminatedSet, requirement⟩) ∧
    read ("=yes)" ++ "," ++ "bird in ()") = .error ⟨.missingKey, "=yes)"⟩ ∧
    read ("bird,!wild" ++ "," ++ "bird in ()") = .error ⟨.emptySet, "bird in ()"⟩ ∧
    read ("bird,!wild" ++ "," ++ "home=pond") =
      .ok ⟨[.present "bird", .absent "wild", .equals "home" "pond"]⟩ ∧
    read ("bird,!wild" ++ "," ++ " ,") = read "bird,!wild" := by
  obtain ⟨hopen, -⟩ := read_conjunction "=yes)" "bird in (goose" (by decide +kernel)
  obtain ⟨-, hclosed, -⟩ := read_conjunction "=yes)" "bird in ()" (by decide +kernel)
  obtain ⟨-, hclosed', -⟩ := read_conjunction "bird,!wild" "bird in ()" (by decide +kernel)
  obtain ⟨-, hboth, -⟩ := read_conjunction "bird,!wild" "home=pond" (by decide +kernel)
  obtain ⟨-, -, -, -, hvacant⟩ := read_conjunction "bird,!wild" " ," (by decide +kernel)
  have hbird : read "bird,!wild" = .ok ⟨[.present "bird", .absent "wild"]⟩ := by decide +kernel
  refine ⟨hopen (by decide +kernel), ?_, ?_, ?_, hvacant ?_⟩
  · exact (hclosed (by decide +kernel)).1 _ (by decide +kernel)
  · exact (hclosed' (by decide +kernel)).2.1 _ _ hbird (by decide +kernel)
  · exact (hboth (by decide +kernel)).2.2 _ _ hbird (by decide +kernel)
  · have hall : " ,".toList.all fun c => isBlank c || c == ',' := by decide +kernel
    simpa [Vacant] using hall

end DuckCensus.Selector
