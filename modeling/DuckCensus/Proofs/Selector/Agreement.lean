import DuckCensus.Proofs.Selector.Locality
import DuckCensus.Proofs.Selector.RoundTrip

/-! One condition can be written in several ways: a set of values as single values, an excluded set
as a conjunction, and each negative requirement as the failure of the positive one. -/
namespace DuckCensus
open Std Text Selector

namespace Requirement

/-! A label that is absent has none of the values. So it fails every positive requirement and
satisfies every negative one. -/
section Holds
variable {key value : String} {values : ExtTreeSet String} {labels : Labels}

theorem holds_isIn_iff :
    (isIn key values).holds labels ↔ ∃ value ∈ values, (equals key value).holds labels := by
  simp only [holds, Option.any_eq_true, decide_eq_true_eq, beq_iff_eq]
  exact exists_congr fun value => and_comm

theorem holds_differs_iff :
    (differs key value).holds labels ↔ ¬ (equals key value).holds labels := by
  simp [holds]

theorem holds_notIn_iff : (notIn key values).holds labels ↔ ¬ (isIn key values).holds labels := by
  rw [holds, holds]
  cases labels[key]? with
  | none => simp
  | some value => simp

theorem holds_absent_iff : (absent key).holds labels ↔ ¬ (present key).holds labels := by
  simp [holds]

theorem holds_notIn_iff_forall :
    (notIn key values).holds labels ↔ ∀ value ∈ values, (differs key value).holds labels := by
  simp only [holds_notIn_iff, holds_isIn_iff, holds_differs_iff, not_exists, not_and]

/-- A label that has one of the values is there. -/
theorem holds_present_of_isIn (h : (isIn key values).holds labels) :
    (present key).holds labels := by
  obtain ⟨value, -, h⟩ := holds_isIn_iff.mp h
  have hl : labels[key]? = some value := by simpa [holds] using h
  simp [holds, ExtTreeMap.mem_iff_isSome_getElem?, hl]

end Holds

/-! Values that may stand in a list may stand behind an equals sign too. -/
section Plain
variable {key value : String} {marks marks' v : List Char}

theorem Plain.mono (h : Plain marks v) (hs : marks' ⊆ marks) : Plain marks' v :=
  ⟨h.1, fun c hc hm => h.2 c hc (hs hm)⟩

theorem Plain.printable_equals (hv : Plain ['(', ')', ',', '='] value.toList)
    (hk : IsKey key.toList) : (equals key value).Printable := by
  have he : '=' ∉ value.toList := fun hc => hv.2 '=' hc (by simp)
  have hnone (m : Char) : ¬ [m, '='] <:+: value.toList := fun hi => he (hi.subset (by simp))
  exact ⟨hk, hv.mono (by simp), ⟨fun hh => he (List.mem_of_head? hh), hnone '='⟩, hnone '!'⟩

/-- A doubled equals sign is read as a single one. -/
theorem Plain.writes_equalsTwice (hv : Plain ['(', ')', ',', '='] value.toList)
    (hk : IsKey key.toList) :
    Writes (key.toList ++ [] ++ (['=', '='] ++ value.toList)) (equals key value) := by
  have hbang : '!' ∉ key.toList ++ [] ++ ['=', '='] := by
    rw [List.mem_append, not_or]
    exact ⟨hk.not_mem rfl (by simp) rfl, by decide⟩
  have hnb : ¬ ['!', '='] <:+: key.toList ++ [] ++ (['=', '='] ++ value.toList) := by
    rw [← List.append_assoc, infix_append_iff hbang]
    exact fun hi => hv.2 '=' (hi.subset (by simp)) (by simp)
  have hp := (hk.plain.append (plain_equals.append plain_equals)).append (hv.mono (by simp))
  have hd := Denotes.equalsTwice (w := []) hk rfl hnb
  rw [String.ofList_toList, trim_of_trimmed hv.1, String.ofList_toList] at hd
  rw [List.append_assoc] at hp
  rw [List.append_nil] at hd ⊢
  exact hp.writes hd

end Plain

end Requirement

namespace Selector

/-! The forms: one of some values, none of them, and each of them excluded by itself. -/

def among (key : String) (values : List String) : String :=
  key ++ " in (" ++ ",".intercalate values ++ ")"

def notAmong (key : String) (values : List String) : String :=
  key ++ " notin (" ++ ",".intercalate values ++ ")"

def noneOf (key : String) (values : List String) : String :=
  ",".intercalate (values.map (key ++ "!=" ++ ·))

def Accepts (text : String) (labels : Labels) : Prop :=
  ∃ s, read text = .ok s ∧ s.selects labels

section Forms
variable {key text value : String} {values : List String} {set : ExtTreeSet String}
  {labels : Labels} {r : Requirement}

theorem accepts_iff {s : Selector} (h : read text = .ok s) :
    Accepts text labels ↔ s.selects labels := by
  simp [Accepts, h]

theorem accepts_iff_holds (h : read text = .ok (ofRequirement r)) :
    Accepts text labels ↔ r.holds labels := by
  simp [accepts_iff h, ofRequirement, selects]

theorem read_of_writes (h : Requirement.Writes text.toList r) :
    read text = .ok (ofRequirement r) := by
  have hr := read_of_isPieceFrom h.piece h.not_allBlank
  rwa [String.ofList_toList, h.read] at hr

theorem read_requirement (h : r.Printable) : read r.text = .ok (ofRequirement r) :=
  read_of_writes (Requirement.writes_text h)

/-- Only the members of the list matter, and neither their order nor their number. -/
theorem read_among (hk : Requirement.IsKey key.toList) (hv : Requirement.PrintableList values)
    (hne : values ≠ []) (hm : ∀ value, value ∈ set ↔ value ∈ values) :
    read (among key values) = .ok (ofRequirement (.isIn key set)) := by
  have hw := Requirement.writes_membership hk .isIn (hv.values hne hm) fun _ => hv.not_mem
  exact read_of_writes (by simpa [among] using hw)

theorem read_notAmong (hk : Requirement.IsKey key.toList) (hv : Requirement.PrintableList values)
    (hne : values ≠ []) (hm : ∀ value, value ∈ set ↔ value ∈ values) :
    read (notAmong key values) = .ok (ofRequirement (.notIn key set)) := by
  have hw := Requirement.writes_membership hk .notIn (hv.values hne hm) fun _ => hv.not_mem
  exact read_of_writes (by simpa [notAmong] using hw)

theorem read_noneOf (hk : Requirement.IsKey key.toList) (hv : Requirement.PrintableList values) :
    read (noneOf key values) = .ok ⟨values.map (.differs key)⟩ := by
  have hp : Printable ⟨values.map (.differs key)⟩ := by
    intro r hr
    obtain ⟨value, hin, rfl⟩ := List.mem_map.mp hr
    exact ⟨hk, (hv value hin).2.mono (by simp)⟩
  have hr := read_text hp
  rwa [Selector.text, List.map_map] at hr

theorem read_equals (hk : Requirement.IsKey key.toList)
    (hv : Requirement.Plain ['(', ')', ',', '='] value.toList) :
    read (key ++ "=" ++ value) = .ok (ofRequirement (.equals key value)) :=
  read_requirement (r := .equals key value) (hv.printable_equals hk)

theorem read_equalsTwice (hk : Requirement.IsKey key.toList)
    (hv : Requirement.Plain ['(', ')', ',', '='] value.toList) :
    read (key ++ "==" ++ value) = .ok (ofRequirement (.equals key value)) :=
  read_of_writes (by simpa using hv.writes_equalsTwice hk)

end Forms

/-- All forms are selectors. A key is among some values if and only if it equals one of them, and it
is not among them if and only if it differs from each, which is the failure of the first and holds
also without the key. The order of the values and their repetition do not matter. -/
theorem forms_agree (key : String) (values : List String) (hk : Requirement.IsKey key.toList)
    (hne : values ≠ [])
    (hv : ∀ value ∈ values, value.toList ≠ [] ∧
      Requirement.Plain ['(', ')', ',', '='] value.toList) :
    (∀ text ∈ [among key values, notAmong key values, noneOf key values, key, "!" ++ key],
      ∃ s, read text = .ok s) ∧
    (∀ value ∈ values, read (key ++ "==" ++ value) = read (key ++ "=" ++ value) ∧
      ∃ s, read (key ++ "=" ++ value) = .ok s) ∧
    (∀ labels : Labels,
      (Accepts (among key values) labels ↔
        ∃ value ∈ values, Accepts (key ++ "=" ++ value) labels) ∧
      (Accepts (notAmong key values) labels ↔ Accepts (noneOf key values) labels) ∧
      (Accepts (notAmong key values) labels ↔ ¬ Accepts (among key values) labels) ∧
      (Accepts ("!" ++ key) labels ↔ ¬ Accepts key labels) ∧
      (Accepts (among key values) labels ↔
        Accepts key labels ∧ ¬ Accepts (notAmong key values) labels)) ∧
    ∀ values' : List String, (∀ value, value ∈ values' ↔ value ∈ values) →
      read (among key values') = read (among key values) ∧
      read (notAmong key values') = read (notAmong key values) ∧
      ∀ labels, Accepts (noneOf key values') labels ↔ Accepts (noneOf key values) labels := by
  have hm (value : String) : value ∈ ExtTreeSet.ofList values ↔ value ∈ values := by simp
  have hamong := read_among hk hv hne hm
  have hnot := read_notAmong hk hv hne hm
  have hnone := read_noneOf hk hv
  have hpresent : read key = .ok (ofRequirement (.present key)) :=
    read_requirement (r := .present key) hk
  have habsent : read ("!" ++ key) = .ok (ofRequirement (.absent key)) :=
    read_requirement (r := .absent key) hk
  refine ⟨?_, ?_, ?_, ?_⟩
  · simp only [List.forall_mem_cons]
    exact ⟨⟨_, hamong⟩, ⟨_, hnot⟩, ⟨_, hnone⟩, ⟨_, hpresent⟩, ⟨_, habsent⟩, by simp⟩
  · intro value hin
    have hplain := (hv value hin).2
    exact ⟨(read_equalsTwice hk hplain).trans (read_equals hk hplain).symm,
      ⟨_, read_equals hk hplain⟩⟩
  · intro labels
    have hequals : ∀ value ∈ values, (Accepts (key ++ "=" ++ value) labels ↔
        (Requirement.equals key value).holds labels) :=
      fun value hin => accepts_iff_holds (read_equals hk (hv value hin).2)
    rw [accepts_iff_holds hamong, accepts_iff_holds hnot, accepts_iff hnone,
      accepts_iff_holds hpresent, accepts_iff_holds habsent, Requirement.holds_absent_iff]
    refine ⟨?_, ?_, Requirement.holds_notIn_iff, Iff.rfl, ?_⟩
    · rw [Requirement.holds_isIn_iff]
      simp only [hm]
      exact exists_congr fun value => and_congr_right fun hin => (hequals value hin).symm
    · rw [Requirement.holds_notIn_iff_forall]
      simp [selects, hm]
    · rw [Requirement.holds_notIn_iff, not_not]
      exact ⟨fun h => ⟨Requirement.holds_present_of_isIn h, h⟩, And.right⟩
  · intro values' hsame
    have hv' : Requirement.PrintableList values' := fun value hin => hv value ((hsame value).mp hin)
    have hne' : values' ≠ [] := by
      obtain ⟨value, hin⟩ := List.exists_mem_of_ne_nil values hne
      exact List.ne_nil_of_mem ((hsame value).mpr hin)
    have hm' (value : String) : value ∈ ExtTreeSet.ofList values ↔ value ∈ values' :=
      (hm value).trans (hsame value).symm
    refine ⟨(read_among hk hv' hne' hm').trans hamong.symm,
      (read_notAmong hk hv' hne' hm').trans hnot.symm, ?_⟩
    intro labels
    rw [accepts_iff (read_noneOf hk hv'), accepts_iff hnone]
    simp [selects, hsame]

/-- Without the label only the negative forms select. -/
theorem forms_agree_birds :
    Accepts "bird in (mute swan,goose,mute swan)" (.ofList [("bird", "goose")]) ∧
    ¬ Accepts "bird in (mute swan,goose,mute swan)" ∅ ∧
    Accepts "bird!=mute swan,bird!=goose,bird!=mute swan" ∅ ∧
    Accepts "!bird" ∅ ∧
    read "bird in (goose,mute swan)" = read "bird in (mute swan,goose,mute swan)" := by
  have hplain : ∀ value ∈ ["mute swan", "goose", "mute swan"], value.toList ≠ [] ∧
      Requirement.Plain ['(', ')', ',', '='] value.toList := by
    have hall : ∀ value ∈ ["mute swan", "goose", "mute swan"], value.toList ≠ [] ∧
        trim value.toList = value.toList ∧ value.toList.all (· ∉ ['(', ')', ',', '=']) := by
      decide +kernel
    intro value hin
    obtain ⟨hn, ht, hmarks⟩ := hall value hin
    exact ⟨hn, ht ▸ trimmed_trim _, by simpa using hmarks⟩
  obtain ⟨-, -, hlabels, hsame⟩ := forms_agree "bird" ["mute swan", "goose", "mute swan"]
    (Requirement.isKey_iff.mpr (by decide +kernel)) (by simp) hplain
  obtain ⟨hin, -⟩ := hlabels (.ofList [("bird", "goose")])
  obtain ⟨-, heach, hnot, habsent, hpresent⟩ := hlabels ∅
  have hread : read "bird=goose" = .ok (ofRequirement (.equals "bird" "goose")) := by
    decide +kernel
  have hbird : read "bird" = .ok (ofRequirement (.present "bird")) := by decide +kernel
  have hnone : ¬ Accepts "bird" ∅ := by
    rw [accepts_iff hbird]
    decide +kernel
  have hgone : ¬ Accepts (among "bird" ["mute swan", "goose", "mute swan"]) ∅ :=
    fun h => hnone (hpresent.mp h).1
  refine ⟨hin.mpr ⟨"goose", by simp, (accepts_iff hread).mpr (by decide +kernel)⟩, hgone,
    heach.mp (hnot.mpr hgone), habsent.mpr hnone, (hsame ["goose", "mute swan"] ?_).1⟩
  simp [or_comm]

end Selector
end DuckCensus
