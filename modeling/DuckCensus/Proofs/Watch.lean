import DuckCensus.Watch
import Mathlib.Data.List.Induction

/-! Runs of a watch. A survey reads what the steps last said of the specification, the definitions,
the role and the catalog. Statuses that were written before have no part in it, nor have rebuilds
while a catalog is held. -/
namespace DuckCensus.Watch
variable {α : Type}

namespace Step

def catalog? : Step → Option Catalog
  | rebuild listings => some (.ofListings listings)
  | _ => none

def role? : Step → Option (Option Role)
  | setRole role => some role
  | _ => none

def spec? : Step → Option Spec
  | setSpec spec => some spec
  | _ => none

def revise (ds : List Definition) : Step → List Definition
  | setDefinitions ds' => ds'
  | addDefinition d => ds ++ [d]
  | removeDefinition name => ds.filter (·.metadata.name ≠ some name)
  | _ => ds

def LeavesHold (s : Step) : Prop := s ≠ hold ∧ s ≠ release

end Step

/-- The last value that the steps set, and without any the first one. -/
def latest (f : Step → Option α) (first : α) (steps : List Step) : α :=
  (steps.filterMap f).getLastD first

def generationAfter (first : Option Int64) (steps : List Step) : Option Int64 :=
  if steps.filterMap Step.spec? = [] then first
  else some (first.getD 0 + Int64.ofNat (steps.filterMap Step.spec?).length)

variable {w w' : Watch} {s : Step} {steps : List Step}

theorem run_concat (w : Watch) (steps : List Step) (s : Step) :
    w.run (steps ++ [s]) = (w.run steps).step s := by
  rw [run, List.foldl_append]
  rfl

theorem run_append (w : Watch) (steps steps' : List Step) :
    w.run (steps ++ steps') = (w.run steps).run steps' := List.foldl_append

theorem latest_concat (f : Step → Option α) (first : α) (steps : List Step) (s : Step) :
    latest f first (steps ++ [s]) = (f s).getD (latest f first steps) := by
  rw [latest, latest, List.filterMap_append]
  cases h : f s with
  | none => simp [h]
  | some x => simp [h]

/-- A part of the watch that each step sets or leaves is what the steps last set. -/
theorem run_eq_latest {g : Watch → α} {f : Step → Option α}
    (h : ∀ w s, g (w.step s) = (f s).getD (g w)) (w : Watch) (steps : List Step) :
    g (w.run steps) = latest f (g w) steps := by
  induction steps using List.reverseRecOn with
  | nil => rfl
  | append_singleton steps s ih => rw [run_concat, h, ih, latest_concat]

theorem live_run (w : Watch) (steps : List Step) :
    (w.run steps).live = latest Step.catalog? w.live steps := by
  have hstep (w : Watch) (s : Step) : (w.step s).live = s.catalog?.getD w.live := by
    cases s <;> rfl
  exact run_eq_latest hstep w steps

theorem role_run (w : Watch) (steps : List Step) :
    (w.run steps).role = latest Step.role? w.role steps := by
  have hstep (w : Watch) (s : Step) : (w.step s).role = s.role?.getD w.role := by
    cases s <;> rfl
  exact run_eq_latest hstep w steps

theorem spec_run (w : Watch) (steps : List Step) :
    (w.run steps).declaration.spec = latest Step.spec? w.declaration.spec steps := by
  have hstep (w : Watch) (s : Step) :
      (w.step s).declaration.spec = s.spec?.getD w.declaration.spec := by
    cases s <;> rfl
  exact run_eq_latest (g := (·.declaration.spec)) hstep w steps

theorem definitions_run (w : Watch) (steps : List Step) :
    (w.run steps).definitions = steps.foldl Step.revise w.definitions := by
  induction steps generalizing w with
  | nil => rfl
  | cons s steps ih =>
    have hs : (w.step s).definitions = s.revise w.definitions := by cases s <;> rfl
    rw [List.foldl_cons, ← hs]
    exact ih (w.step s)

theorem generationAfter_concat (first : Option Int64) (steps : List Step) (s : Step) :
    generationAfter first (steps ++ [s]) =
      match s.spec? with
      | none => generationAfter first steps
      | some _ => some ((generationAfter first steps).getD 0 + 1) := by
  rw [generationAfter, generationAfter, List.filterMap_append]
  cases h : s.spec? with
  | none => simp [h]
  | some spec =>
    by_cases hn : steps.filterMap Step.spec? = []
    · simp [h, hn]
    · simp [h, hn, Int64.ofNat_add, Int64.add_assoc]

theorem generation_run (w : Watch) (steps : List Step) :
    (w.run steps).declaration.metadata.generation =
      generationAfter w.declaration.metadata.generation steps := by
  induction steps using List.reverseRecOn with
  | nil => rfl
  | append_singleton steps s ih =>
    rw [run_concat, generationAfter_concat, ← ih]
    cases s <;> rfl

/-! ## The held catalog -/

theorem Step.LeavesHold.held (hs : s.LeavesHold) (w : Watch) : (w.step s).held = w.held := by
  cases s with
  | hold => exact absurd rfl hs.1
  | release => exact absurd rfl hs.2
  | _ => rfl

theorem held_run (h : ∀ s ∈ steps, s.LeavesHold) : (w.run steps).held = w.held := by
  induction steps generalizing w with
  | nil => rfl
  | cons s steps ih =>
    obtain ⟨hs, hrest⟩ := List.forall_mem_cons.mp h
    rw [← hs.held w]
    exact ih hrest

/-- What is held is the catalog that was live when it was taken. -/
theorem held_run_of_hold {before after : List Step} (h : ∀ s ∈ after, s.LeavesHold) :
    (w.run (before ++ .hold :: after)).held = some (w.run before).live := by
  rw [run_append]
  exact held_run (w := (w.run before).step .hold) h

theorem held_run_of_released (hw : w.held = none)
    (h : ∀ before after, steps = before ++ .hold :: after → .release ∈ after) :
    (w.run steps).held = none := by
  induction steps using List.reverseRecOn with
  | nil => exact hw
  | append_singleton steps s ih =>
    rw [run_concat]
    by_cases hrelease : s = .release
    · subst hrelease
      rfl
    · have hhold : s ≠ .hold := by
        rintro rfl
        exact List.not_mem_nil (h steps [] rfl)
      rw [Step.LeavesHold.held ⟨hhold, hrelease⟩]
      apply ih
      rintro before after rfl
      have hm := h before (after ++ [s]) (by simp)
      exact (List.mem_append.mp hm).resolve_right fun hr =>
        hrelease (List.mem_singleton.mp hr).symm

/-- Two watches that differ at most in the live catalog, which neither of them uses. -/
structure HeldAlike (w w' : Watch) : Prop where
  declaration : w.declaration = w'.declaration
  definitions : w.definitions = w'.definitions
  role : w.role = w'.role
  held : ∃ c, w.held = some c ∧ w'.held = some c

theorem HeldAlike.rebuild (h : HeldAlike w w') (listings : List Listing) :
    HeldAlike (w.step (.rebuild listings)) w' :=
  ⟨h.declaration, h.definitions, h.role, h.held⟩

theorem HeldAlike.currentStatus (h : HeldAlike w w') : w.currentStatus = w'.currentStatus := by
  obtain ⟨c, hc, hc'⟩ := h.held
  rw [Watch.currentStatus, Watch.currentStatus, catalog, catalog, h.declaration, h.definitions,
    h.role, hc, hc']
  rfl

theorem HeldAlike.step (h : HeldAlike w w') (hs : s.LeavesHold) :
    HeldAlike (w.step s) (w'.step s) := by
  obtain ⟨c, hc, hc'⟩ := h.held
  refine ⟨?_, ?_, ?_, c, (hs.held w).trans hc, (hs.held w').trans hc'⟩
  · cases s with
    | setSpec spec => simp only [Watch.step, h.declaration]
    | observe => simp only [Watch.step, h.declaration, h.currentStatus]
    | _ => exact h.declaration
  · cases s with
    | addDefinition d => simp only [Watch.step, h.definitions]
    | removeDefinition name => simp only [Watch.step, h.definitions]
    | setDefinitions ds => rfl
    | _ => exact h.definitions
  · cases s with
    | setRole role => rfl
    | _ => exact h.role

/-- Rebuilds can be left out while a catalog is held. -/
theorem HeldAlike.run (h : HeldAlike w w') (hs : ∀ s ∈ steps, s.LeavesHold) :
    HeldAlike (w.run steps) (w'.run (steps.filter (·.catalog?.isNone))) := by
  induction steps generalizing w w' with
  | nil => exact h
  | cons s steps ih =>
    obtain ⟨hleaves, hrest⟩ := List.forall_mem_cons.mp hs
    -- only a rebuild is missing from the second run, and it touches nothing but the live catalog
    cases s with
    | rebuild listings => exact ih (h.rebuild listings) hrest
    | _ => exact ih (h.step hleaves) hrest

theorem status_run_observe (w : Watch) (steps : List Step) :
    (w.run (steps ++ [.observe])).declaration.status = some (w.run steps).currentStatus := by
  rw [run_concat]
  rfl

/-- Nothing but these parts of a watch is read. -/
theorem currentStatus_congr (hspec : w.declaration.spec = w'.declaration.spec)
    (hgeneration : w.declaration.metadata.generation = w'.declaration.metadata.generation)
    (hdefinitions : w.definitions = w'.definitions) (hrole : w.role = w'.role)
    (hcatalog : w.catalog = w'.catalog) : w.currentStatus = w'.currentStatus := by
  rw [currentStatus, currentStatus, Declaration.observe, Declaration.observe, hspec, hgeneration,
    hdefinitions, hrole, hcatalog]

/-- What a survey writes after any run is the status for the last specification and its generation,
the current definitions, the last role, and the catalog that was live when last held or, if it was
released since, the one last rebuilt. So runs that come to the same inputs write the same status,
what is rebuilt while a catalog is held shows nowhere in the declaration, and a second survey
changes nothing. -/
theorem status_after_run (hw : w.held = none) (steps : List Step) :
    (∃ catalog,
      (∀ before after, steps = before ++ .hold :: after → (∀ s ∈ after, s ≠ .hold ∧ s ≠ .release) →
        catalog = latest Step.catalog? w.live before) ∧
      ((∀ before after, steps = before ++ .hold :: after → .release ∈ after) →
        catalog = latest Step.catalog? w.live steps) ∧
      (w.run (steps ++ [.observe])).declaration.status =
        some (Declaration.observe
          { metadata := { generation := generationAfter w.declaration.metadata.generation steps },
            spec := latest Step.spec? w.declaration.spec steps }
          (steps.foldl Step.revise w.definitions) (some catalog)
          (latest Step.role? w.role steps))) ∧
    (∀ (w' : Watch) (steps' : List Step),
      (w'.run steps').declaration.spec = (w.run steps).declaration.spec →
      (w'.run steps').declaration.metadata.generation =
        (w.run steps).declaration.metadata.generation →
      (w'.run steps').definitions = (w.run steps).definitions →
      (w'.run steps').role = (w.run steps).role →
      (w'.run steps').catalog = (w.run steps).catalog →
      (w'.run (steps' ++ [.observe])).declaration.status =
        (w.run (steps ++ [.observe])).declaration.status) ∧
    (∀ before after, steps = before ++ .hold :: after → (∀ s ∈ after, s ≠ .hold ∧ s ≠ .release) →
      (w.run steps).declaration =
        (w.run (before ++ .hold :: after.filter (·.catalog?.isNone))).declaration) ∧
    (w.run (steps ++ [.observe, .observe])).declaration =
      (w.run (steps ++ [.observe])).declaration := by
  refine ⟨⟨(w.run steps).catalog, ?_, ?_, ?_⟩, ?_, ?_, ?_⟩
  · rintro before after rfl hafter
    rw [catalog, held_run_of_hold hafter, Option.getD_some, live_run]
  · intro h
    rw [catalog, held_run_of_released hw h, Option.getD_none, live_run]
  · rw [status_run_observe, ← generation_run, ← spec_run, ← definitions_run, ← role_run]
    rfl
  · intro w' steps' hspec hgeneration hdefinitions hrole hcatalog
    rw [status_run_observe, status_run_observe,
      currentStatus_congr hspec hgeneration hdefinitions hrole hcatalog]
  · rintro before after rfl hafter
    have hheld : HeldAlike ((w.run before).step .hold) ((w.run before).step .hold) :=
      ⟨rfl, rfl, rfl, _, rfl, rfl⟩
    have hrun := (hheld.run hafter).declaration
    rw [run_append, run_append]
    exact hrun
  · rw [run_append, run_append]
    rfl

def gooseSpec : Spec where
  group := "pond.org"
  names := ⟨"Goose", "geese", ""⟩
  versions := [⟨"v1", [{ apiVersion := "pond.org/v1", resource := "geese" }]⟩]

def geese : Listing := ⟨"pond.org/v1", [⟨"Goose", "geese"⟩]⟩

-- the geese are gone from the live catalog, not from the held one, when the new specification is
-- first observed
def gooseSteps : List Step :=
  [.observe, .rebuild [geese], .hold, .rebuild [], .observe, .setSpec gooseSpec]

theorem status_after_run_gooseSteps :
    (run { declaration := { spec := gooseSpec } } (gooseSteps ++ [.observe])).declaration.status =
        some (Declaration.observe { metadata := { generation := some 1 }, spec := gooseSpec } []
          (some (.ofListings [geese])) none) ∧
      (Declaration.observe { metadata := { generation := some 1 }, spec := gooseSpec } []
        (some (.ofListings [geese])) none).isReady := by
  obtain ⟨⟨catalog, hheld, -, hstatus⟩, -⟩ :=
    status_after_run (w := { declaration := { spec := gooseSpec } }) rfl gooseSteps
  have hcatalog : catalog = .ofListings [geese] :=
    hheld [.observe, .rebuild [geese]] [.rebuild [], .observe, .setSpec gooseSpec] rfl (by simp)
  rw [hcatalog] at hstatus
  exact ⟨hstatus, by decide +kernel⟩

end DuckCensus.Watch
