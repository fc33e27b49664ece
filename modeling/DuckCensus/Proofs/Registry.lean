import DuckCensus.Registry
import Mathlib.Data.List.Induction

/-! Runs of a registry. Handles that go back by clones to one share make a family, and the steps
alone tell what a family shows. -/
namespace DuckCensus.Registry
open Std

namespace Step

def isShare : Step → Bool
  | share .. => true
  | _ => false

def Binds (handle : String) : Step → Prop
  | share h _ => h = handle
  | clone h _ => h = handle
  | _ => False

def Stores (name : String) : Step → Prop
  | store n _ => n = name
  | snapshot n _ => n = name
  | _ => False

end Step

def shares (steps : List Step) : Nat := steps.countP (·.isShare)

/-- After the steps, the handle goes back by clones to the share that had `n` shares before it. -/
inductive InFamily (n : Nat) : List Step → String → Prop
  | share {past : List Step} (handle : String) (source : Option String) (hn : shares past = n) :
    InFamily n (past ++ [.share handle source]) handle
  | clone {past : List Step} (handle : String) {source : String} (h : InFamily n past source) :
    InFamily n (past ++ [.clone handle source]) handle
  | keep {past : List Step} {step : Step} {handle : String} (h : InFamily n past handle)
    (hs : ¬ step.Binds handle) : InFamily n (past ++ [step]) handle

/-- The steps after `before` rebuild nothing through a handle that is then of the family. -/
def Quiet (n : Nat) (before after : List Step) : Prop :=
  ∀ mid handle ls, mid ++ [.rebuild handle ls] <+: after → ¬ InFamily n (before ++ mid) handle

def given? (r : Registry) : Option String → Option Catalog
  | none => some {}
  | some name => r.catalogs[name]?

/-- The catalog is what was listed when a family was last rebuilt or, if it never was, what it was
shared over. -/
inductive LastGiven (n : Nat) (steps : List Step) : Catalog → Prop
  | rebuilt {before after : List Step} (handle : String) (ls : List Listing)
    (hs : steps = before ++ .rebuild handle ls :: after) (hf : InFamily n before handle)
    (hq : Quiet n (before ++ [.rebuild handle ls]) after) : LastGiven n steps (.ofListings ls)
  | shared {before after : List Step} (handle : String) (source : Option String)
    (hs : steps = before ++ .share handle source :: after) (hn : shares before = n)
    (hq : Quiet n (before ++ [.share handle source]) after) {r : Registry}
    (hr : run {} before = some r) {c : Catalog} (hc : r.given? source = some c) :
    LastGiven n steps c

inductive Moves (r : Registry) : Step → Registry → Prop
  | store (name : String) (ls : List Listing) :
    Moves r (.store name ls) (r.storeCatalog name (.ofListings ls))
  | share (handle : String) {source : Option String} {c : Catalog} (hc : r.given? source = some c) :
    Moves r (.share handle source) (r.shareCatalog handle c)
  | clone (handle : String) {source : String} {place : Nat} (hp : r.handles[source]? = some place) :
    Moves r (.clone handle source) { r with handles := r.handles.insert handle place }
  | rebuild {handle : String} (ls : List Listing) {place : Nat}
    (hp : r.handles[handle]? = some place) :
    Moves r (.rebuild handle ls) { r with live := r.live.set place (.ofListings ls) }
  | snapshot (name : String) {handle : String} {c : Catalog} (hc : r.shown? handle = some c) :
    Moves r (.snapshot name handle) (r.storeCatalog name c)

variable {r r' : Registry} {s : Step} {steps before after : List Step} {handle : String} {n : Nat}
  {c : Catalog}

theorem step_eq_some_iff : r.step s = some r' ↔ r.Moves s r' := by
  constructor
  · intro h
    cases s with
    | store name ls =>
      cases h
      exact .store name ls
    | share handle source =>
      cases source with
      | none =>
        cases h
        exact .share handle rfl
      | some name =>
        obtain ⟨c, hc, rfl⟩ := Option.map_eq_some_iff.mp h
        exact .share handle hc
    | clone handle source =>
      obtain ⟨place, hp, rfl⟩ := Option.map_eq_some_iff.mp h
      exact .clone handle hp
    | rebuild handle ls =>
      obtain ⟨place, hp, rfl⟩ := Option.map_eq_some_iff.mp h
      exact .rebuild ls hp
    | snapshot name handle =>
      obtain ⟨c, hc, rfl⟩ := Option.map_eq_some_iff.mp h
      exact .snapshot name hc
  · intro h
    cases h with
    | store name ls => rfl
    | @share handle source c hc =>
      cases source with
      | none =>
        cases hc
        rfl
      | some name => exact Option.map_eq_some_iff.mpr ⟨c, hc, rfl⟩
    | clone handle hp => exact Option.map_eq_some_iff.mpr ⟨_, hp, rfl⟩
    | rebuild ls hp => exact Option.map_eq_some_iff.mpr ⟨_, hp, rfl⟩
    | snapshot name hc => exact Option.map_eq_some_iff.mpr ⟨_, hc, rfl⟩

theorem run_cons_eq_some_iff : r.run (s :: steps) = some r' ↔
    ∃ r₁, r.Moves s r₁ ∧ r₁.run steps = some r' := by
  rw [run, List.foldlM_cons]
  refine Option.bind_eq_some_iff.trans (exists_congr fun r₁ => and_congr_left fun _ => ?_)
  exact step_eq_some_iff

theorem run_concat_eq_some_iff : r.run (steps ++ [s]) = some r' ↔
    ∃ r₁, r.run steps = some r₁ ∧ r₁.Moves s r' := by
  rw [run, List.foldlM_append]
  refine Option.bind_eq_some_iff.trans (exists_congr fun r₁ => and_congr_right fun _ => ?_)
  simp only [← step_eq_some_iff, List.foldlM_cons, List.foldlM_nil, bind_pure]

theorem shares_concat : shares (steps ++ [s]) = shares steps + if s.isShare then 1 else 0 := by
  rw [shares, List.countP_append, List.countP_singleton]
  rfl

theorem not_inFamily_nil : ¬ InFamily n [] handle := by
  intro h
  generalize he : ([] : List Step) = steps at h
  cases h <;> simp at he

theorem inFamily_concat_iff : InFamily n (steps ++ [s]) handle ↔
    (∃ source, s = .share handle source ∧ shares steps = n) ∨
    (∃ source, s = .clone handle source ∧ InFamily n steps source) ∨
    ¬ s.Binds handle ∧ InFamily n steps handle := by
  constructor
  · intro h
    generalize he : steps ++ [s] = all at h
    cases h with
    | share handle source hn =>
      obtain ⟨rfl, hs⟩ := List.append_inj' he rfl
      exact Or.inl ⟨source, List.singleton_inj.mp hs, hn⟩
    | @clone _ handle source h =>
      obtain ⟨rfl, hs⟩ := List.append_inj' he rfl
      exact Or.inr (Or.inl ⟨source, List.singleton_inj.mp hs, h⟩)
    | keep h hb =>
      obtain ⟨rfl, hs⟩ := List.append_inj' he rfl
      cases List.singleton_inj.mp hs
      exact Or.inr (Or.inr ⟨hb, h⟩)
  · intro h
    obtain ⟨source, rfl, hn⟩ | ⟨source, rfl, h⟩ | ⟨hb, h⟩ := h
    · exact .share handle source hn
    · exact .clone handle h
    · exact .keep h hb

theorem inFamily_concat_iff_of_not_binds (hs : ¬ s.Binds handle) :
    InFamily n (steps ++ [s]) handle ↔ InFamily n steps handle := by
  rw [inFamily_concat_iff]
  constructor
  · intro h
    obtain ⟨source, rfl, -⟩ | ⟨source, rfl, -⟩ | ⟨-, h⟩ := h
    · exact absurd rfl hs
    · exact absurd rfl hs
    · exact h
  · intro h
    exact Or.inr (Or.inr ⟨hs, h⟩)

theorem inFamily_share_iff {source : Option String} :
    InFamily n (steps ++ [.share handle source]) handle ↔ shares steps = n := by
  simp [inFamily_concat_iff, Step.Binds]

theorem inFamily_clone_iff {source : String} :
    InFamily n (steps ++ [.clone handle source]) handle ↔ InFamily n steps source := by
  simp [inFamily_concat_iff, Step.Binds]

theorem InFamily.lt_shares (h : InFamily n steps handle) : n < shares steps := by
  induction h with
  | share handle source hn =>
    rw [shares_concat, ← hn]
    exact Nat.lt_succ_self _
  | clone handle _ ih =>
    rw [shares_concat]
    exact Nat.lt_add_right _ ih
  | keep _ _ ih =>
    rw [shares_concat]
    exact Nat.lt_add_right _ ih

theorem quiet_nil (n : Nat) (before : List Step) : Quiet n before [] := by
  intro mid handle ls h
  simp at h

theorem Quiet.concat (h : Quiet n before after)
    (hs : ∀ handle ls, s = .rebuild handle ls → ¬ InFamily n (before ++ after) handle) :
    Quiet n before (after ++ [s]) := by
  intro mid handle ls hp
  cases List.prefix_concat_iff.mp hp with
  | inl he =>
    obtain ⟨rfl, hr⟩ := List.append_inj' he rfl
    exact hs handle ls (List.singleton_inj.mp hr).symm
  | inr hp => exact h mid handle ls hp

theorem LastGiven.concat (h : LastGiven n steps c)
    (hs : ∀ handle ls, s = .rebuild handle ls → ¬ InFamily n steps handle) :
    LastGiven n (steps ++ [s]) c := by
  cases h with
  | @rebuilt before after handle ls he hf hq =>
    subst he
    have hq' : Quiet n (before ++ [.rebuild handle ls]) (after ++ [s]) :=
      hq.concat (by simpa using hs)
    exact .rebuilt handle ls (by simp) hf hq'
  | @shared before after handle source he hn hq r hr c hc =>
    subst he
    have hq' : Quiet n (before ++ [.share handle source]) (after ++ [s]) :=
      hq.concat (by simpa using hs)
    exact .shared handle source (by simp) hn hq' hr hc

/-- The steps tell the state: a family has its number for a place, and there what it was last
given. -/
structure Told (steps : List Step) (r : Registry) : Prop where
  handles : ∀ handle n, r.handles[handle]? = some n ↔ InFamily n steps handle
  places : r.live.length = shares steps
  live : ∀ n c, r.live[n]? = some c → LastGiven n steps c

theorem told_nil : Told [] {} where
  handles handle n := by simp [not_inFamily_nil]
  places := rfl
  live n c h := by simp at h

theorem Told.handles_insert (h : Told steps r) (hb : ∀ other, s.Binds other ↔ handle = other)
    {place : Nat} (hp : ∀ n, place = n ↔ InFamily n (steps ++ [s]) handle) (other : String)
    (n : Nat) :
    (r.handles.insert handle place)[other]? = some n ↔ InFamily n (steps ++ [s]) other := by
  simp only [ExtTreeMap.getElem?_insert, LawfulEqCmp.compare_eq_iff_eq]
  by_cases he : handle = other
  · subst he
    rw [if_pos rfl, Option.some_inj, hp]
  · rw [if_neg he, h.handles, inFamily_concat_iff_of_not_binds ((hb other).not.mpr he)]

theorem Told.live_concat (h : Told steps r) (hs : ∀ handle ls, s ≠ .rebuild handle ls) (n : Nat)
    (c : Catalog) (hc : r.live[n]? = some c) : LastGiven n (steps ++ [s]) c :=
  (h.live n c hc).concat fun handle ls he => absurd he (hs handle ls)

theorem Told.storeCatalog (h : Told steps r) (hb : ∀ handle, ¬ s.Binds handle)
    (hs : s.isShare = false) (hr : ∀ handle ls, s ≠ .rebuild handle ls) (name : String)
    (c : Catalog) : Told (steps ++ [s]) (r.storeCatalog name c) where
  handles handle n :=
    (h.handles handle n).trans (inFamily_concat_iff_of_not_binds (hb handle)).symm
  places := by
    rw [shares_concat, hs]
    exact h.places
  live := h.live_concat hr

theorem Told.step (h : Told steps r) (hrun : run {} steps = some r) (hm : r.Moves s r') :
    Told (steps ++ [s]) r' := by
  cases hm with
  | store name ls => exact h.storeCatalog (by simp [Step.Binds]) rfl (by simp) name _
  | snapshot name hc => exact h.storeCatalog (by simp [Step.Binds]) rfl (by simp) name _
  | @share handle source c hc =>
    refine ⟨h.handles_insert (fun _ => Iff.rfl) fun n => ?_, ?_, ?_⟩
    · rw [inFamily_share_iff, h.places]
    · rw [shares_concat, ← h.places]
      simp [shareCatalog, Step.isShare]
    · intro n c' hl
      by_cases hn : n < r.live.length
      · rw [shareCatalog, List.getElem?_append_left hn] at hl
        exact h.live_concat (by simp) n c' hl
      · rw [shareCatalog, List.getElem?_append_right (Nat.le_of_not_lt hn)] at hl
        obtain ⟨hz, rfl⟩ : n - r.live.length = 0 ∧ c = c' := by
          simpa [List.getElem?_singleton] using hl
        refine .shared handle source rfl ?_ (quiet_nil n _) hrun hc
        rw [← h.places]
        omega
  | @clone handle source place hp =>
    refine ⟨h.handles_insert (fun _ => Iff.rfl) fun n => ?_, ?_, h.live_concat (by simp)⟩
    · rw [inFamily_clone_iff, ← h.handles, hp, Option.some_inj]
    · rw [shares_concat]
      exact h.places
  | @rebuild handle ls place hp =>
    refine ⟨?_, ?_, ?_⟩
    · intro other n
      rw [inFamily_concat_iff_of_not_binds (by simp [Step.Binds])]
      exact h.handles other n
    · rw [shares_concat, ← h.places]
      simp [Step.isShare]
    · intro n c hl
      have hf := h.handles handle
      by_cases hn : place = n
      · subst hn
        obtain rfl : .ofListings ls = c := by
          obtain ⟨hlt, -⟩ := List.getElem?_eq_some_iff.mp hl
          rw [List.length_set] at hlt
          rwa [List.getElem?_set_self hlt, Option.some_inj] at hl
        exact .rebuilt handle ls rfl ((hf place).mp hp) (quiet_nil place _)
      · rw [List.getElem?_set_ne hn] at hl
        apply (h.live n c hl).concat
        intro other ls' he
        cases he
        exact fun hm => hn (Option.some_inj.mp (hp.symm.trans ((hf n).mpr hm)))

theorem told_run (h : run {} steps = some r) : Told steps r := by
  induction steps using List.reverseRecOn generalizing r with
  | nil =>
    cases h
    exact told_nil
  | append_singleton steps s ih =>
    obtain ⟨r₁, hr, hm⟩ := run_concat_eq_some_iff.mp h
    exact (ih hr).step hr hm

theorem Told.shown?_eq_some_iff (h : Told steps r) : r.shown? handle = some c ↔
    ∃ n, InFamily n steps handle ∧ r.live[n]? = some c := by
  rw [shown?, Option.bind_eq_some_iff]
  exact exists_congr fun n => and_congr_left fun _ => h.handles handle n

theorem Told.exists_shown_iff (h : Told steps r) :
    (∃ c, r.shown? handle = some c) ↔ ∃ n, InFamily n steps handle := by
  simp only [h.shown?_eq_some_iff]
  constructor
  · intro hc
    obtain ⟨c, n, hf, -⟩ := hc
    exact ⟨n, hf⟩
  · intro hf
    obtain ⟨n, hf⟩ := hf
    have hn : n < r.live.length := h.places ▸ hf.lt_shares
    exact ⟨r.live[n], n, hf, List.getElem?_eq_getElem hn⟩

theorem Told.lastGiven (h : Told steps r) (hc : r.shown? handle = some c)
    (hf : InFamily n steps handle) : LastGiven n steps c := by
  obtain ⟨m, hm, hl⟩ := h.shown?_eq_some_iff.mp hc
  have he : m = n := Option.some_inj.mp (((h.handles handle m).mpr hm).symm.trans
    ((h.handles handle n).mpr hf))
  exact he ▸ h.live m c hl

/-- A rebuild is seen by its own family only. -/
theorem Told.shown?_rebuild (h : Told steps r) (ls : List Listing)
    (ho : ¬ InFamily n steps handle) :
    shown? { r with live := r.live.set n (.ofListings ls) } handle = r.shown? handle := by
  rw [shown?, shown?]
  refine Option.bind_congr fun m hm => ?_
  have hne : n ≠ m := by
    rintro rfl
    exact ho ((h.handles handle n).mp hm)
  exact List.getElem?_set_ne hne

theorem getElem?_storeCatalog_of_ne {name other : String} (hne : name ≠ other) :
    (r.storeCatalog name c).catalogs[other]? = r.catalogs[other]? := by
  rw [storeCatalog, ExtTreeMap.getElem?_insert, if_neg]
  exact fun he => hne (LawfulEqCmp.compare_eq_iff_eq.mp he)

theorem getElem?_storeCatalog_self (r : Registry) (name : String) (c : Catalog) :
    (r.storeCatalog name c).catalogs[name]? = some c := ExtTreeMap.getElem?_insert_self

theorem Moves.getElem?_catalogs (hm : r.Moves s r') {name : String} (hs : ¬ s.Stores name) :
    r'.catalogs[name]? = r.catalogs[name]? := by
  cases hm with
  | store other ls => exact getElem?_storeCatalog_of_ne hs
  | snapshot other hc => exact getElem?_storeCatalog_of_ne hs
  | share handle hc => rfl
  | clone handle hp => rfl
  | rebuild ls hp => rfl

/-- A stored catalog stays until another is stored under its name. -/
theorem getElem?_catalogs_run {name : String} (h : r.run steps = some r')
    (hs : ∀ s ∈ steps, ¬ s.Stores name) : r'.catalogs[name]? = r.catalogs[name]? := by
  induction steps generalizing r with
  | nil =>
    cases h
    rfl
  | cons s steps ih =>
    obtain ⟨r₁, hm, hr⟩ := run_cons_eq_some_iff.mp h
    obtain ⟨hs, hrest⟩ := List.forall_mem_cons.mp hs
    rw [ih hr hrest, hm.getElem?_catalogs hs]

/-- After any run a snapshot can be taken through the handles that were shared or cloned. It holds
what was listed when the family of the handle was last rebuilt, and nothing older, or what the
family was shared over. A rebuild shows through no handle of another family and in no stored
catalog, and those change only when another is stored under the same name. -/
theorem snapshot_after_run (h : run {} steps = some r) :
    (∀ name handle, (∃ r', r.step (.snapshot name handle) = some r') ↔
      ∃ n, InFamily n steps handle) ∧
    (∀ name handle r' n, r.step (.snapshot name handle) = some r' → InFamily n steps handle →
      ∃ c, r'.catalogs[name]? = some c ∧ LastGiven n steps c) ∧
    (∀ handle ls r' n, r.step (.rebuild handle ls) = some r' → InFamily n steps handle →
      r'.catalogs = r.catalogs ∧
        ∀ other, ¬ InFamily n steps other → r'.shown? other = r.shown? other) ∧
    ∀ later r' name, r.run later = some r' → (∀ s ∈ later, ¬ s.Stores name) →
      r'.catalogs[name]? = r.catalogs[name]? := by
  have ht := told_run h
  refine ⟨?_, ?_, ?_, fun later r' name => getElem?_catalogs_run⟩
  · intro name handle
    rw [← ht.exists_shown_iff]
    simp only [step, Option.map_eq_some_iff]
    constructor
    · intro hr
      obtain ⟨r', c, hc, -⟩ := hr
      exact ⟨c, hc⟩
    · intro hc
      obtain ⟨c, hc⟩ := hc
      exact ⟨_, c, hc, rfl⟩
  · intro name handle r' n hr hf
    cases step_eq_some_iff.mp hr with
    | snapshot name hc => exact ⟨_, getElem?_storeCatalog_self r name _, ht.lastGiven hc hf⟩
  · intro handle ls r' n hr hf
    cases step_eq_some_iff.mp hr with
    | rebuild ls hp =>
      cases hp.symm.trans ((ht.handles handle n).mpr hf)
      exact ⟨rfl, fun other ho => ht.shown?_rebuild ls ho⟩

def pond : Listing := ⟨"pond.org/v1", [⟨"Goose", "geese"⟩]⟩

def lake : Listing := ⟨"lake.org/v1", [⟨"Swan", "swans"⟩]⟩

-- the first handle is given away to a second share while its clone lives on
def pondSteps : List Step :=
  [ .store "map" [pond], .share "a" (some "map"), .clone "b" "a", .rebuild "b" [lake],
    .snapshot "kept" "a", .share "a" (some "map") ]

/-- A snapshot through the clone holds the rebuild, and one through the handle that was given away
what the second share is over. -/
theorem snapshot_after_run_pond : ∃ r, run {} pondSteps = some r ∧
    (∃ r', r.step (.snapshot "new" "b") = some r' ∧
      r'.catalogs["new"]? = some (.ofListings [lake]) ∧
      LastGiven 0 pondSteps (.ofListings [lake])) ∧
    ∃ r', r.step (.snapshot "new" "a") = some r' ∧
      r'.catalogs["new"]? = some (.ofListings [pond]) ∧
      LastGiven 1 pondSteps (.ofListings [pond]) := by
  obtain ⟨r, h⟩ : ∃ r, run {} pondSteps = some r :=
    Option.isSome_iff_exists.mp (by decide +kernel)
  obtain ⟨hbound, hholds, -⟩ := snapshot_after_run h
  have hstored (handle : String) (r' : Registry) (hr : r.step (.snapshot "new" handle) = some r') :
      ((run {} pondSteps).bind (·.step (.snapshot "new" handle))).bind (·.catalogs["new"]?) =
        r'.catalogs["new"]? := by
    rw [h, Option.bind_some, hr, Option.bind_some]
  have ha : InFamily 1 pondSteps "a" := @InFamily.share 1 (pondSteps.take 5) "a" (some "map") rfl
  have hb : InFamily 0 pondSteps "b" := by
    have hshared : InFamily 0 (pondSteps.take 2) "a" :=
      @InFamily.share 0 (pondSteps.take 1) "a" (some "map") rfl
    have hcloned : InFamily 0 (pondSteps.take 3) "b" := hshared.clone "b"
    have hrebuilt : InFamily 0 (pondSteps.take 4) "b" := hcloned.keep (by simp [Step.Binds])
    have hkept : InFamily 0 (pondSteps.take 5) "b" := hrebuilt.keep (by simp [Step.Binds])
    exact hkept.keep (by simp [Step.Binds])
  refine ⟨r, h, ?_, ?_⟩
  · obtain ⟨r', hr⟩ := (hbound "new" "b").mpr ⟨0, hb⟩
    obtain ⟨c, hc, hl⟩ := hholds "new" "b" r' 0 hr hb
    obtain rfl : .ofListings [lake] = c := by
      rw [← Option.some_inj, ← hc, ← hstored "b" r' hr]
      decide +kernel
    exact ⟨r', hr, hc, hl⟩
  · obtain ⟨r', hr⟩ := (hbound "new" "a").mpr ⟨1, ha⟩
    obtain ⟨c, hc, hl⟩ := hholds "new" "a" r' 1 hr ha
    obtain rfl : .ofListings [pond] = c := by
      rw [← Option.some_inj, ← hc, ← hstored "a" r' hr]
      decide +kernel
    exact ⟨r', hr, hc, hl⟩

end DuckCensus.Registry
