import DuckCensus.Proofs.Survey.Reporting
import DuckCensus.Proofs.Text.Quoted

/-! The message of a status tells the fault of the selector that could not be read. -/
namespace DuckCensus
open Std

namespace Selector

theorem Flaw.phrase_inj {f g : Flaw} : f.phrase = g.phrase ↔ f = g := by
  cases f <;> cases g <;> simp [phrase]

theorem Flaw.quote_not_mem (f : Flaw) : '"' ∉ (f.phrase ++ " in requirement ").toList := by
  cases f <;> decide +kernel

theorem Fault.toList_message (f : Fault) :
    f.message.toList = (f.flaw.phrase ++ " in requirement ").toList ++
      Text.quoted f.requirement.toList := by
  simp [message]

theorem Fault.message_inj {f g : Fault} : f.message = g.message ↔ f = g := by
  constructor
  · intro h
    have hlist : f.message.toList = g.message.toList := by rw [h]
    rw [f.toList_message, g.toList_message] at hlist
    -- the first quote of a message begins the requirement
    have hphrase := ((Text.append_cons_inj f.flaw.quote_not_mem g.flaw.quote_not_mem).mp hlist).1
    have hflaw : f.flaw = g.flaw := by
      simpa [String.toList_inj, Flaw.phrase_inj] using hphrase
    rw [hphrase] at hlist
    have hrequirement : f.requirement = g.requirement :=
      String.toList_inj.mp (Text.quoted_inj.mp (List.append_cancel_left hlist))
    calc
      f = ⟨f.flaw, f.requirement⟩ := rfl
      _ = ⟨g.flaw, g.requirement⟩ := by rw [hflaw, hrequirement]
      _ = g := rfl
  · intro h
    rw [h]

end Selector

theorem Failure.message_invalidSelector_inj {f g : Selector.Fault} :
    (invalidSelector f).message = (invalidSelector g).message ↔ f = g :=
  (String.append_right_inj _).trans Selector.Fault.message_inj

namespace Declaration

theorem exists_firstFails_of_reason {d : Declaration} {ds : List Definition}
    {catalog : Option Catalog} {role : Option Role} {condition : Condition}
    (hc : condition ∈ (d.observe ds catalog role).conditions)
    (hr : condition.reason = "InvalidSelector") :
    ∃ fault, FirstFails Selector.read d.spec.selectors fault ∧
      condition.message = (Failure.invalidSelector fault).message := by
  cases h : d.spec.survey ds catalog role with
  | ok findings =>
    rw [observe_of_ok h] at hc
    obtain rfl := List.mem_singleton.mp hc
    exact absurd hr (by decide)
  | error failure =>
    rw [observe_of_error h] at hc
    obtain rfl := List.mem_singleton.mp hc
    obtain ⟨fault, rfl⟩ := Failure.reason_eq_invalidSelector_iff.mp hr
    obtain ⟨first, hf, he⟩ | ⟨-, before, r, after, -, hresolve, -⟩ :=
      Spec.survey_eq_error_iff.mp h
    · cases he
      exact ⟨fault, hf, rfl⟩
    · exact absurd hresolve Settings.resolve_ne_invalidSelector

/-- Different faults have different messages, so two statuses that report an unreadable selector
have the same message if and only if the first selectors that cannot be read have the same fault. -/
theorem observe_message_eq_iff :
    (∀ f g : Selector.Fault, f.message = g.message ↔ f = g) ∧
    ∀ (d d' : Declaration) (ds ds' : List Definition) (catalog catalog' : Option Catalog)
      (role role' : Option Role) (condition condition' : Condition),
      condition ∈ (d.observe ds catalog role).conditions →
      condition' ∈ (d'.observe ds' catalog' role').conditions →
      condition.reason = "InvalidSelector" → condition'.reason = "InvalidSelector" →
      (condition.message = condition'.message ↔
        ∃ fault, FirstFails Selector.read d.spec.selectors fault ∧
          FirstFails Selector.read d'.spec.selectors fault) := by
  refine ⟨fun f g => Selector.Fault.message_inj, ?_⟩
  intro d d' ds ds' catalog catalog' role role' condition condition' hc hc' hr hr'
  obtain ⟨fault, hf, hm⟩ := exists_firstFails_of_reason hc hr
  obtain ⟨fault', hf', hm'⟩ := exists_firstFails_of_reason hc' hr'
  rw [hm, hm', Failure.message_invalidSelector_inj]
  constructor
  · rintro rfl
    exact ⟨fault, hf, hf'⟩
  · rintro ⟨shared, hs, hs'⟩
    exact (hf.unique hs).trans (hs'.unique hf')

def asking (selectors : List String) : Declaration :=
  { spec := { Spec.gooseSpec with selectors } }

/-- Neither white space nor the selectors behind the faulty one matter, but a quote does. -/
theorem observe_message_eq_iff_asking : ∃ a b c : Condition,
    ((asking ["bird", "!bird=yes"]).observe [Spec.geese] none none).conditions = [a] ∧
    ((asking ["\t!bird=yes", "="]).observe [] none none).conditions = [b] ∧
    ((asking ["!bird=\"yes\""]).observe [] none none).conditions = [c] ∧
    a.message = b.message ∧ a.message ≠ c.message := by
  have hyes : FirstFails Selector.read ["bird", "!bird=yes"] ⟨.unknownOperator, "!bird=yes"⟩ :=
    mapM_eq_error_iff.mp (by decide +kernel)
  have hblank : FirstFails Selector.read ["\t!bird=yes", "="] ⟨.unknownOperator, "!bird=yes"⟩ :=
    mapM_eq_error_iff.mp (by decide +kernel)
  have hquote : FirstFails Selector.read ["!bird=\"yes\""]
      ⟨.unknownOperator, "!bird=\"yes\""⟩ := mapM_eq_error_iff.mp (by decide +kernel)
  have ha : ((asking ["bird", "!bird=yes"]).observe [Spec.geese] none none).conditions =
      [.notReady "InvalidSelector"
        "invalid definition selector: unknown operator in requirement \"!bird=yes\""] := by
    decide +kernel
  have hb : ((asking ["\t!bird=yes", "="]).observe [] none none).conditions =
      [.notReady "InvalidSelector"
        "invalid definition selector: unknown operator in requirement \"!bird=yes\""] := by
    decide +kernel
  have hc : ((asking ["!bird=\"yes\""]).observe [] none none).conditions =
      [.notReady "InvalidSelector"
        "invalid definition selector: unknown operator in requirement \"!bird=\\\"yes\\\"\""] := by
    decide +kernel
  refine ⟨_, _, _, ha, hb, hc, ?_, ?_⟩
  · refine (observe_message_eq_iff.2 _ _ _ _ _ _ _ _ _ _ (ha ▸ List.mem_singleton_self _)
      (hb ▸ List.mem_singleton_self _) rfl rfl).mpr ?_
    exact ⟨_, hyes, hblank⟩
  · refine mt (observe_message_eq_iff.2 _ _ _ _ _ _ _ _ _ _ (ha ▸ List.mem_singleton_self _)
      (hc ▸ List.mem_singleton_self _) rfl rfl).mp ?_
    intro h
    obtain ⟨fault, h, h'⟩ := h
    have hf := (h.unique hyes).symm.trans (h'.unique hquote)
    exact absurd hf (by decide)

end Declaration
end DuckCensus
