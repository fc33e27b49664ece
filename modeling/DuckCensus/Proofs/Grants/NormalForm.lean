import DuckCensus.Json.Cluster
import DuckCensus.Proofs.Grants

/-! What a policy grants is the sum of what its rules grant, one by one. Each rule that grants
reading may be taken apart into rules for a single group and a single resource. -/
namespace DuckCensus
open Std

namespace PolicyRule

def single (group resource : String) : PolicyRule := ⟨["*"], [group], [resource]⟩

def singles (r : PolicyRule) : List PolicyRule :=
  r.apiGroups.flatMap fun group => r.resources.map (single group)

theorem mem_singles_iff {r single' : PolicyRule} : single' ∈ r.singles ↔
    ∃ g ∈ r.apiGroups, ∃ name ∈ r.resources, single g name = single' := by
  simp [singles]

theorem grantsReading_single (group resource : String) : (single group resource).grantsReading :=
  grantsReading_iff.mpr (Or.inl List.mem_cons_self)

end PolicyRule

namespace Grants
variable {rules rules' : List PolicyRule} {i : Identity}

theorem mem_keysOf_single_iff {group resource k : String} :
    k ∈ keysOf (.single group resource) ↔ key group resource = k := by
  simp [mem_keysOf_iff, PolicyRule.single]

/-- No two rules have to be read together. -/
theorem allows_append_iff : (ofRules (rules ++ rules')).allows i ↔
    (ofRules rules).allows i ∨ (ofRules rules').allows i := by
  simp only [allows_ofRules_iff, List.mem_append, or_and_right, exists_or]

/-- The rules that grant reading, taken apart, in any order and any number of times. -/
def TakenApart (rules apart : List PolicyRule) : Prop :=
  ∀ rule', rule' ∈ apart ↔ ∃ rule ∈ rules,
    ("*" ∈ rule.verbs ∨ ["get", "watch", "list"] ⊆ rule.verbs) ∧
      ∃ g ∈ rule.apiGroups, ∃ r ∈ rule.resources, .single g r = rule'

theorem takenApart_singles (rules : List PolicyRule) :
    TakenApart rules ((rules.filter (·.grantsReading)).flatMap (·.singles)) := by
  intro rule'
  simp only [List.mem_flatMap, List.mem_filter, PolicyRule.mem_singles_iff,
    PolicyRule.grantsReading_iff, and_assoc]

theorem ofRules_of_takenApart {apart : List PolicyRule} (h : TakenApart rules apart) :
    ofRules rules = ofRules apart := by
  refine ofRules_ext fun k => ⟨?_, ?_⟩
  · intro hk
    obtain ⟨rule, hr, hreads, hk⟩ := hk
    obtain ⟨g, hg, r, hname, he⟩ := mem_keysOf_iff.mp hk
    have hsingle : .single g r ∈ apart :=
      (h _).mpr ⟨rule, hr, PolicyRule.grantsReading_iff.mp hreads, g, hg, r, hname, rfl⟩
    exact ⟨_, hsingle, PolicyRule.grantsReading_single g r, mem_keysOf_single_iff.mpr he⟩
  · intro hk
    obtain ⟨rule', hr', -, hk⟩ := hk
    obtain ⟨rule, hr, hreads, g, hg, r, hname, rfl⟩ := (h _).mp hr'
    exact ⟨rule, hr, PolicyRule.grantsReading_iff.mpr hreads,
      mem_keysOf_iff.mpr ⟨g, hg, r, hname, mem_keysOf_single_iff.mp hk⟩⟩

theorem keysOf_eq_nil_iff {rule : PolicyRule} :
    keysOf rule = [] ↔ rule.apiGroups = [] ∨ rule.resources = [] := by
  rw [keysOf]
  cases rule.apiGroups with
  | nil => simp
  | cons g gs => simp +contextual [List.flatMap_eq_nil_iff]

/-- A rule without groups or without resources can be left out. -/
theorem ofRules_insert_of_nil {rule : PolicyRule} (h : rule.apiGroups = [] ∨ rule.resources = []) :
    ofRules (rules ++ rule :: rules') = ofRules (rules ++ rules') := by
  have hnone (k : String) : k ∉ keysOf rule := by
    rw [keysOf_eq_nil_iff.mpr h]
    exact List.not_mem_nil
  refine ofRules_ext fun k => ?_
  simp only [List.mem_append, List.mem_cons, or_and_right, exists_or, exists_eq_left, hnone,
    and_false, false_or]

theorem ofRules_eq_empty_iff : ofRules rules = {} ↔
    ∀ rule ∈ rules, rule.grantsReading → rule.apiGroups = [] ∨ rule.resources = [] := by
  have hempty : ofRules rules = {} ↔ ∀ k, k ∉ (ofRules rules).keys := by
    rw [← ExtTreeSet.eq_empty_iff_forall_not_mem]
    exact ⟨congrArg Grants.keys, congrArg Grants.mk⟩
  simp only [hempty, mem_keys_ofRules_iff, not_exists, not_and, ← keysOf_eq_nil_iff]
  constructor
  · intro h rule hr hreads
    exact List.eq_nil_iff_forall_not_mem.mpr fun k => h k rule hr hreads
  · intro h k rule hr hreads
    rw [h rule hr hreads]
    exact List.not_mem_nil

end Grants

/-! A list that is missing from a rule is read as the empty one. -/

def Json.Absent (fields : List (String × Json)) (name : String) : Prop :=
  fields.lookup name = none ∨ fields.lookup name = some .null

theorem Json.lenient_of_absent {α : Type} {fields : List (String × Json)} {name : String}
    (h : Absent fields name) (read : Json → Option α) (default : α) :
    lenient fields name read default = some default := by
  rw [lenient, optional]
  obtain h | h := h
  · rw [h]
    rfl
  · rw [h]
    rfl

theorem PolicyRule.eq_nil_of_absent {fields : List (String × Json)} {rule : PolicyRule}
    (h : ofJson? (.object fields) = some rule) :
    (Json.Absent fields "apiGroups" → rule.apiGroups = []) ∧
      (Json.Absent fields "resources" → rule.resources = []) := by
  simp only [ofJson?, Json.fields?, Option.bind_eq_bind, Option.bind_some,
    Option.bind_eq_some_iff] at h
  obtain ⟨verbs, -, groups, hg, resources, hr, he⟩ := h
  cases he
  constructor
  · intro ha
    rw [Json.lenient_of_absent ha] at hg
    exact (Option.some_inj.mp hg).symm
  · intro ha
    rw [Json.lenient_of_absent ha] at hr
    exact (Option.some_inj.mp hr).symm

namespace Grants

/-- What a role grants is what its rules grant one by one. Its grants are those of its reading rules
taken apart, a rule whose groups or resources are empty or missing adds nothing to them, and they
are empty if and only if every reading rule is such a rule. -/
theorem additive_with_normal_form :
    (∀ (rules rules' : List PolicyRule) (i : Identity),
      (ofRole (some ⟨rules ++ rules'⟩)).allows i ↔
        (ofRole (some ⟨rules⟩)).allows i ∨ (ofRole (some ⟨rules'⟩)).allows i) ∧
    (∀ role : Role, (∃ apart, TakenApart role.rules apart) ∧
      ∀ apart, TakenApart role.rules apart → ofRole (some role) = ofRole (some ⟨apart⟩)) ∧
    (∀ (rules rules' : List PolicyRule) (rule : PolicyRule),
      rule.apiGroups = [] ∨ rule.resources = [] →
        ofRole (some ⟨rules ++ rule :: rules'⟩) = ofRole (some ⟨rules ++ rules'⟩)) ∧
    (∀ (fields : List (String × Json)) (rule : PolicyRule),
      PolicyRule.ofJson? (.object fields) = some rule →
      Json.Absent fields "apiGroups" ∨ Json.Absent fields "resources" →
        ∀ rules rules' : List PolicyRule,
          ofRole (some ⟨rules ++ rule :: rules'⟩) = ofRole (some ⟨rules ++ rules'⟩)) ∧
    ∀ role : Role, ofRole (some role) = {} ↔
      ∀ rule ∈ role.rules, ("*" ∈ rule.verbs ∨ ["get", "watch", "list"] ⊆ rule.verbs) →
        rule.apiGroups = [] ∨ rule.resources = [] := by
  refine ⟨fun rules rules' i => allows_append_iff, ?_, ?_, ?_, ?_⟩
  · intro role
    exact ⟨⟨_, takenApart_singles role.rules⟩, fun apart h => ofRules_of_takenApart h⟩
  · intro rules rules' rule h
    exact ofRules_insert_of_nil h
  · intro fields rule h habsent rules rules'
    obtain ⟨hgroups, hresources⟩ := PolicyRule.eq_nil_of_absent h
    exact ofRules_insert_of_nil (habsent.imp hgroups hresources)
  · intro role
    have hempty : ofRole (some role) = {} ↔ ∀ rule ∈ role.rules, rule.grantsReading →
        rule.apiGroups = [] ∨ rule.resources = [] := ofRules_eq_empty_iff
    simp only [hempty, PolicyRule.grantsReading_iff]

/-- Only the last rule of the pondkeeper grants reading, and a rule without groups changes nothing
whatever else it names. -/
theorem additive_with_normal_form_pondkeeper :
    (ofRole (some ⟨pondkeeper.rules ++ [.single "pond.org" "swans"]⟩)).allows
      ⟨"pond.org/v1", "Swan"⟩ ∧
    ofRole (some pondkeeper) = ofRole (some ⟨[.single "Pond.org" "GOOSES",
      .single "Pond.org" "eggs", .single "Pond.org" "GOOSES"]⟩) ∧
    ofRole (some ⟨⟨["*"], [], ["*"]⟩ :: pondkeeper.rules⟩) = ofRole (some pondkeeper) ∧
    (∃ rule, PolicyRule.ofJson? (.object [("verbs", .array [.text "*"]), ("apiGroups", .null),
        ("resources", .array [.text "*"])]) = some rule ∧
      ofRole (some ⟨rule :: pondkeeper.rules⟩) = ofRole (some pondkeeper)) ∧
    ofRole (some pondkeeper) ≠ {} := by
  obtain ⟨hsum, happart, hnil, habsent, hempty⟩ := additive_with_normal_form
  have htaken : TakenApart pondkeeper.rules [.single "Pond.org" "GOOSES",
      .single "Pond.org" "eggs", .single "Pond.org" "GOOSES"] := by
    intro rule'
    simp [pondkeeper, eq_comm, or_comm]
  have hread : PolicyRule.ofJson? (.object [("verbs", .array [.text "*"]), ("apiGroups", .null),
      ("resources", .array [.text "*"])]) = some ⟨["*"], [], ["*"]⟩ := rfl
  refine ⟨(hsum _ _ _).mpr (Or.inr (by decide +kernel)), (happart pondkeeper).2 _ htaken,
    hnil [] _ _ (Or.inl rfl), ⟨_, hread, ?_⟩, ?_⟩
  · exact habsent _ _ hread (Or.inl (Or.inr rfl)) [] pondkeeper.rules
  · intro h
    have hnone := (hempty pondkeeper).mp h
    revert hnone
    decide +kernel

end Grants
end DuckCensus
