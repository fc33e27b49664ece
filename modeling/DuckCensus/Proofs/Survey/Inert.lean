import DuckCensus.Proofs.Survey.Reporting

/-! Definitions that leave no trace in a survey. They may still be picked and counted as refused or
unmatched, and may declare duck versions, but nothing of this is reported. -/
namespace DuckCensus
open Std Text

section Names
variable {α : Type} {name : α → String} {taken taken' : ExtTreeSet String}

theorem firstOfEachName_congr {xs : List α} (h : ∀ x ∈ xs, name x ∈ taken ↔ name x ∈ taken') :
    firstOfEachName name taken xs = firstOfEachName name taken' xs := by
  induction xs generalizing taken taken' with
  | nil => rfl
  | cons x xs ih =>
    obtain ⟨hx, hxs⟩ := List.forall_mem_cons.mp h
    rw [firstOfEachName, firstOfEachName]
    by_cases hm : name x ∈ taken
    · rw [if_pos hm, if_pos (hx.mp hm)]
      exact ih hxs
    · rw [if_neg hm, if_neg fun hm' => hm (hx.mpr hm')]
      refine congrArg (x :: ·) (ih ?_)
      intro y hy
      rw [ExtTreeSet.mem_insert, ExtTreeSet.mem_insert, hxs y hy]

/-- An item whose name is its own is kept, and of the others the same are kept as without it. -/
theorem firstOfEachName_insert {x : α} {before after : List α} (hx : name x ∉ taken)
    (h : ∀ y ∈ before ++ after, name y ≠ name x) : ∃ kept kept',
    firstOfEachName name taken (before ++ after) = kept ++ kept' ∧
      firstOfEachName name taken (before ++ x :: after) = kept ++ x :: kept' := by
  induction before generalizing taken with
  | nil =>
    refine ⟨[], _, rfl, ?_⟩
    rw [List.nil_append, firstOfEachName, if_neg hx]
    refine congrArg (x :: ·) (firstOfEachName_congr ?_)
    intro y hy
    have hne : name x ≠ name y := (h y hy).symm
    simp [ExtTreeSet.mem_insert, hne]
  | cons z before ih =>
    obtain ⟨hz, hrest⟩ := List.forall_mem_cons.mp h
    rw [List.cons_append, List.cons_append, firstOfEachName, firstOfEachName]
    by_cases hm : name z ∈ taken
    · rw [if_pos hm, if_pos hm]
      exact ih hx hrest
    · rw [if_neg hm, if_neg hm]
      have hx' : name x ∉ taken.insert (name z) := by simp [ExtTreeSet.mem_insert, hz, hx]
      obtain ⟨kept, kept', hw, hi⟩ := ih hx' hrest
      refine ⟨z :: kept, kept', ?_, ?_⟩
      · rw [hw, List.cons_append]
      · rw [hi, List.cons_append]

theorem firstOfEachName_filter_insert (name : α → String) (p : α → Bool) {x : α}
    {before after : List α} (hp : p x) (h : ∀ y ∈ before ++ after, name y ≠ name x) :
    ∃ kept kept', firstOfEachName name ∅ ((before ++ after).filter p) = kept ++ kept' ∧
      firstOfEachName name ∅ ((before ++ x :: after).filter p) = kept ++ x :: kept' := by
  rw [List.filter_append, List.filter_append, List.filter_cons_of_pos hp]
  apply firstOfEachName_insert ExtTreeSet.not_mem_empty
  intro y hy
  rw [← List.filter_append] at hy
  exact h y (List.mem_of_mem_filter hy)

end Names

namespace Spec
variable {s : Spec} {before after : List Definition} {x : Definition}

/-- Why a definition yields nothing, picked or not. -/
inductive Inert (s : Spec) (d : Definition) : Prop
  | unserved (h : ∀ i, ¬ d.Serves i)
  | refused (value : String) (hl : s.LabelSays d value) (hv : value ≠ "true")
  -- there are annotations for duck versions, and they name no version that is served
  | unlisted (hplaced : ∃ v value, s.AnnotationSays d v value)
      (h : ∀ v value, s.AnnotationSays d v value → ∀ i version, d.Serves i → i.EndsIn version →
        version ≠ "" → ∀ part ∈ value.toList.splitOn ',', trim part ≠ version.toList)
  -- there are none, and there is no duck version it could go to
  | unplaced (hplaced : ¬ ∃ v value, s.AnnotationSays d v value) (h : s.versions = [])

theorem Inert.not_places (h : s.Inert x) {v : String} {duck : Duck} (hd : duck ∈ x.served) :
    ¬ s.Places x v duck.version := by
  intro hp
  obtain ⟨hadmits, hdefault, hlisted⟩ := hp
  have hserves : x.Serves duck.toIdentity := Definition.exists_mem_served_iff.mp ⟨duck, hd, rfl⟩
  cases h with
  | unserved hnone => exact hnone _ hserves
  | refused value hl hv => exact hv (hadmits value hl)
  | unlisted hplaced hn =>
    obtain ⟨value, hv, hne, part, hpart, ht⟩ := hlisted hplaced
    exact hn v value hv _ _ hserves (Identity.endsIn_iff.mpr rfl) hne part hpart ht
  | unplaced hplaced hn =>
    obtain ⟨version, hv, -⟩ := hdefault hplaced
    rw [hn] at hv
    exact List.not_mem_nil hv

theorem Inert.sightings (h : s.Inert x) (catalog : Option Catalog) (role : Option Role) :
    ((s.settings catalog role).withoutRepeats.yieldDefinition x).sightings = [] := by
  apply List.eq_nil_iff_forall_not_mem.mpr
  intro sighting hm
  have hc : (s.settings catalog role).withoutRepeats.Contributes sighting.duckVersion
      sighting.duck (.definition x) := Settings.mem_yieldSource.mp hm
  obtain ⟨hd, hp⟩ := counts_iff.mp (Settings.contributes_withoutRepeats.mp hc)
  exact h.not_places hd hp

theorem pick_of_not_asksFor (h : ¬ s.AsksFor x) :
    s.pick (before ++ x :: after) = s.pick (before ++ after) := by
  rw [pick, pick, pickBy, pickBy]
  cases hs : s.readSelectors with
  | error failure => rfl
  | ok selectors =>
    have hx : ¬ selectors.any (·.selects (id x).labels) := (asksFor_iff hs x).not.mp h
    have hfilter := List.filter_cons_of_neg (l := after)
      (p := fun d : Definition => selectors.any (·.selects (id d).labels)) hx
    simp only [Except.map, List.filter_append, hfilter]

theorem pick_insert {picked : List Definition} (h : s.AsksFor x)
    (hname : ∀ e ∈ before ++ after, e.name ≠ x.name)
    (hp : s.pick (before ++ after) = .ok picked) : ∃ kept kept', picked = kept ++ kept' ∧
      s.pick (before ++ x :: after) = .ok (kept ++ x :: kept') := by
  obtain ⟨selectors, hs, rfl⟩ := map_eq_ok_iff.mp hp
  have hx : selectors.any (·.selects (id x).labels) := (asksFor_iff hs x).mp h
  obtain ⟨kept, kept', hw, hi⟩ :=
    firstOfEachName_filter_insert (fun d : Definition => (id d).name)
      (fun d => selectors.any (·.selects (id d).labels)) hx hname
  exact ⟨kept, kept', hw, map_eq_ok_iff.mpr ⟨selectors, hs, hi⟩⟩

/-- Surveys whose picked definitions yield the same sightings are the same. -/
theorem survey_congr {ds ds' : List Definition} {catalog : Option Catalog} {role : Option Role}
    (h : ∀ picked, s.pick ds = .ok picked → ∃ picked', s.pick ds' = .ok picked' ∧
      (picked'.flatMap fun d =>
        ((s.settings catalog role).withoutRepeats.yieldDefinition d).sightings) =
        picked.flatMap fun d =>
          ((s.settings catalog role).withoutRepeats.yieldDefinition d).sightings) :
    s.survey ds' catalog role = s.survey ds catalog role := by
  cases hs : s.survey ds catalog role with
  | error failure => exact survey_eq_error_iff.mpr (survey_eq_error_iff.mp hs)
  | ok findings =>
    obtain ⟨picked, hp, hr, rfl⟩ := survey_eq_ok_iff.mp hs
    obtain ⟨picked', hp', hy⟩ := h picked hp
    refine survey_eq_ok_iff.mpr ⟨picked', hp', hr, ?_⟩
    apply Census.findings_takeAll_congr
    simp only [List.flatMap_append, List.flatMap_map]
    exact congrArg (· ++ _) hy.symm

theorem survey_insert_of_not_asksFor (h : ¬ s.AsksFor x) (catalog : Option Catalog)
    (role : Option Role) :
    s.survey (before ++ x :: after) catalog role = s.survey (before ++ after) catalog role := by
  apply survey_congr
  intro picked hp
  exact ⟨picked, (pick_of_not_asksFor h).trans hp, rfl⟩

theorem survey_insert_of_inert (h : s.Inert x) (hname : ∀ e ∈ before ++ after, e.name ≠ x.name)
    (catalog : Option Catalog) (role : Option Role) :
    s.survey (before ++ x :: after) catalog role = s.survey (before ++ after) catalog role := by
  by_cases ha : s.AsksFor x
  · apply survey_congr
    intro picked hp
    obtain ⟨kept, kept', rfl, hi⟩ := pick_insert ha hname hp
    refine ⟨_, hi, ?_⟩
    rw [List.flatMap_append, List.flatMap_cons, h.sightings catalog role, List.nil_append,
      ← List.flatMap_append]
  · exact survey_insert_of_not_asksFor ha catalog role

end Spec

namespace Declaration

/-- A definition that is not asked for, or is inert and has its name to itself, changes neither the
survey nor the status, wherever it stands among the others. The name matters because a picked
definition keeps out every later one of its name, inert or not. -/
theorem observe_insert_inert (d : Declaration) (before after : List Definition) (x : Definition)
    (catalog : Option Catalog) (role : Option Role)
    (h : ¬ d.spec.AsksFor x ∨
      (∀ e ∈ before ++ after, e.name ≠ x.name) ∧ d.spec.Inert x) :
    d.spec.survey (before ++ x :: after) catalog role =
        d.spec.survey (before ++ after) catalog role ∧
      d.observe (before ++ x :: after) catalog role =
        d.observe (before ++ after) catalog role := by
  have hs : d.spec.survey (before ++ x :: after) catalog role =
      d.spec.survey (before ++ after) catalog role := by
    cases h with
    | inl hasks => exact Spec.survey_insert_of_not_asksFor hasks catalog role
    | inr hinert => exact Spec.survey_insert_of_inert hinert.2 hinert.1 catalog role
  refine ⟨hs, ?_⟩
  rw [observe, observe, hs]

-- the annotation declares the duck version v7, and names only a version that is not served
def goslings : Definition where
  metadata :=
    { name := "goslings", labels := some (.ofList [("bird", "yes")]),
      annotations := some (.ofList [("geese.pond.org/v7", "v2, v3")]) }
  group := "pond.org"
  scope := .namespaced
  kind := "Gosling"
  versions := [⟨"v1", true⟩, ⟨"v2", false⟩]

theorem observe_insert_inert_goslings :
    Spec.gooseSpec.AsksFor goslings ∧ Spec.gooseSpec.Inert goslings ∧
      Spec.gooseSpec.survey [goslings, Spec.geese] none none =
        Spec.gooseSpec.survey [Spec.geese] none none ∧
      observe { spec := Spec.gooseSpec } [goslings, Spec.geese] none none =
        observe { spec := Spec.gooseSpec } [Spec.geese] none none := by
  have hasks : Spec.gooseSpec.AsksFor goslings :=
    ⟨"bird=yes", List.mem_singleton_self _, ⟨[.equals "bird" "yes"]⟩, by decide +kernel,
      by decide +kernel⟩
  have hinert : Spec.gooseSpec.Inert goslings := by
    have hplaced : Spec.gooseSpec.filters.Placed goslings.annotations :=
      Filters.placed_iff.mpr ⟨"v7", by decide +kernel⟩
    apply Spec.Inert.unlisted (Spec.placed_iff.mp hplaced)
    have hall : ∀ p ∈ goslings.annotations.toList, ∀ duck ∈ goslings.served, duck.version ≠ "" →
        ∀ part ∈ p.2.toList.splitOn ',', trim part ≠ duck.version.toList := by decide +kernel
    intro v value hv i version hs he
    obtain ⟨duck, hd, rfl⟩ := Definition.exists_mem_served_iff.mpr hs
    obtain rfl := Identity.endsIn_iff.mp he
    exact hall (_, value) (ExtTreeMap.mem_toList_iff_getElem?_eq_some.mpr hv) duck hd
  have hname : ∀ e ∈ [] ++ [Spec.geese], e.name ≠ goslings.name := by decide +kernel
  exact ⟨hasks, hinert, observe_insert_inert { spec := Spec.gooseSpec } [] [Spec.geese] goslings
    none none (Or.inr ⟨hname, hinert⟩)⟩

end Declaration
end DuckCensus
