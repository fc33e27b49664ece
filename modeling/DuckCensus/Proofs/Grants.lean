import DuckCensus.Grants
import DuckCensus.Proofs.Text.Casing
import DuckCensus.Proofs.Text.Cut
import Mathlib.Tactic.Tauto

/-! Which ducks a policy lets one read, said of the rules of the role and not of the keys that are
kept of them. -/
namespace DuckCensus
open Std Text

namespace PolicyRule

theorem grantsReading_iff {rule : PolicyRule} :
    rule.grantsReading ↔ "*" ∈ rule.verbs ∨ ["get", "watch", "list"] ⊆ rule.verbs := by
  simp [grantsReading, List.subset_def]

/-- A name in a rule stands for all names or for those that differ from it in case only. -/
def Names (pattern name : String) : Prop :=
  pattern = "*" ∨ lower pattern.toList = lower name.toList

instance (pattern name : String) : Decidable (Names pattern name) :=
  inferInstanceAs (Decidable (_ ∨ _))

end PolicyRule

namespace Grants
variable {rules : List PolicyRule} {i j : Identity}

def probes (i : Identity) : List String :=
  [key i.group (i.kind ++ "s"), key "*" "*", key "*" (i.kind ++ "s"), key i.group "*"]

theorem mem_keysOf_iff {rule : PolicyRule} {k : String} :
    k ∈ keysOf rule ↔ ∃ g ∈ rule.apiGroups, ∃ r ∈ rule.resources, key g r = k := by
  simp [keysOf]

theorem mem_keys_ofRules_iff {k : String} : k ∈ (ofRules rules).keys ↔
    ∃ rule ∈ rules, rule.grantsReading ∧ k ∈ keysOf rule := by
  simp [ofRules, and_assoc]

theorem allows_ofRules_iff : (ofRules rules).allows i ↔
    ∃ rule ∈ rules, rule.grantsReading ∧
      ∃ g ∈ rule.apiGroups, ∃ r ∈ rule.resources, key g r ∈ probes i := by
  have hallows : (ofRules rules).allows i = (probes i).any (· ∈ (ofRules rules).keys) := rfl
  simp only [hallows, List.any_eq_true, decide_eq_true_eq, mem_keys_ofRules_iff, mem_keysOf_iff]
  grind

/-- Only the keys of the rules matter that grant reading. -/
theorem ofRules_ext {rules' : List PolicyRule}
    (h : ∀ k, (∃ rule ∈ rules, rule.grantsReading ∧ k ∈ keysOf rule) ↔
      ∃ rule ∈ rules', rule.grantsReading ∧ k ∈ keysOf rule) : ofRules rules = ofRules rules' := by
  have hkeys : (ofRules rules).keys = (ofRules rules').keys :=
    ExtTreeSet.ext_mem fun k => by rw [mem_keys_ofRules_iff, mem_keys_ofRules_iff, h]
  exact congrArg Grants.mk hkeys

/-- Neither the order of the rules nor their repetition matters. -/
theorem ofRules_congr {rules' : List PolicyRule} (h : ∀ rule, rule ∈ rules ↔ rule ∈ rules') :
    ofRules rules = ofRules rules' :=
  ofRules_ext fun k => by simp only [h]

/-- Rules add to what is allowed and take nothing away. -/
theorem allows_mono {rules' : List PolicyRule} (h : rules ⊆ rules')
    (ha : (ofRules rules).allows i) : (ofRules rules').allows i := by
  obtain ⟨rule, hr, hrest⟩ := allows_ofRules_iff.mp ha
  exact allows_ofRules_iff.mpr ⟨rule, h hr, hrest⟩

theorem allows_ofRole_none (i : Identity) : (ofRole none).allows i = false := by
  rw [Bool.eq_false_iff]
  intro h
  obtain ⟨rule, hr, -⟩ := allows_ofRules_iff.mp h
  exact List.not_mem_nil hr

/-- The version has no part in it. -/
theorem allows_congr (g : Grants) (hgroup : i.group = j.group) (hkind : i.kind = j.kind) :
    g.allows i = g.allows j := by
  rw [allows, allows, hgroup, hkind]

/-! Without a colon in the groups a key tells its group from its resource. -/
section Keys
variable {g g' r r' : String}

theorem toList_key (g r : String) :
    (key g r).toList = lower (g.toList ++ ':' :: r.toList) := by
  simp [key]

theorem key_eq_iff (hg : ':' ∉ g.toList) (hg' : ':' ∉ g'.toList)
    (hsigma : ∀ name ∈ [g, g', r, r'], '\u03A3' ∉ name.toList) :
    key g r = key g' r' ↔
      lower g.toList = lower g'.toList ∧ lower r.toList = lower r'.toList := by
  obtain ⟨hgs, hgs', hrs, hrs', -⟩ := by simpa only [List.forall_mem_cons] using hsigma
  have hcolon : BeforeLetters ':' := by decide
  have hlow : ':' ∉ lower g.toList := fun h => hg (mem_of_mem_lower hgs hcolon h)
  have hlow' : ':' ∉ lower g'.toList := fun h => hg' (mem_of_mem_lower hgs' hcolon h)
  rw [← String.toList_inj, toList_key, toList_key, lower_append_cons hgs hrs hcolon,
    lower_append_cons hgs' hrs' hcolon]
  exact append_cons_inj hlow hlow'

/-- Only the wildcard is lowered to the wildcard. -/
theorem lower_eq_wildcard_iff (h : '\u03A3' ∉ g.toList) :
    lower g.toList = lower "*".toList ↔ g = "*" := by
  have hstar : lower "*".toList = ['*'] := by decide +kernel
  rw [hstar, lower_eq_singleton_iff h (by decide), ← String.toList_inj]
  rfl

/-- The four probes cover the wildcards on either side. -/
theorem key_mem_probes_iff (hg : ':' ∉ g.toList) (hi : ':' ∉ i.group.toList)
    (hsigma : ∀ name ∈ [g, r, i.group, i.kind], '\u03A3' ∉ name.toList) :
    key g r ∈ probes i ↔
      PolicyRule.Names g i.group ∧ PolicyRule.Names r (i.kind ++ "s") := by
  obtain ⟨hgs, hrs, his, hks, -⟩ := by simpa only [List.forall_mem_cons] using hsigma
  have hss : '\u03A3' ∉ (i.kind ++ "s").toList := by simp [hks]
  have hkey (group resource : String) (hc : ':' ∉ group.toList)
      (hs : '\u03A3' ∉ group.toList) (hs' : '\u03A3' ∉ resource.toList) :
      key g r = key group resource ↔
        lower g.toList = lower group.toList ∧ lower r.toList = lower resource.toList := by
    apply key_eq_iff hg hc
    simp [hgs, hrs, hs, hs']
  have hstar : ':' ∉ "*".toList ∧ '\u03A3' ∉ "*".toList := by decide
  have hcover (G G' R R' : Prop) :
      (G ∧ R ∨ G' ∧ R' ∨ G' ∧ R ∨ G ∧ R') ↔ (G' ∨ G) ∧ (R' ∨ R) := by tauto
  simp only [probes, List.mem_cons, List.not_mem_nil, or_false, hkey _ _ hi his hss,
    hkey _ _ hstar.1 hstar.2 hstar.2, hkey _ _ hstar.1 hstar.2 hss, hkey _ _ hi his hstar.2,
    lower_eq_wildcard_iff hgs, lower_eq_wildcard_iff hrs, PolicyRule.Names]
  exact hcover _ _ _ _

end Keys

/-- A role lets one read a duck if and only if a single rule of it grants reading and names both
the group of the duck and its resource, by a wildcard or up to case. -/
theorem allows_iff_single_rule (role : Role) (i : Identity)
    (hi : ':' ∉ i.group.toList)
    (hgroups : ∀ rule ∈ role.rules, ∀ g ∈ rule.apiGroups, ':' ∉ g.toList)
    (hsigma : ∀ name ∈ [i.group, i.kind], '\u03A3' ∉ name.toList)
    (hsigmas : ∀ rule ∈ role.rules, ∀ name ∈ rule.apiGroups ++ rule.resources,
      '\u03A3' ∉ name.toList) :
    (ofRole (some role)).allows i ↔
      ∃ rule ∈ role.rules, ("*" ∈ rule.verbs ∨ ["get", "watch", "list"] ⊆ rule.verbs) ∧
        ∃ g ∈ rule.apiGroups, ∃ r ∈ rule.resources,
          PolicyRule.Names g i.group ∧ PolicyRule.Names r (i.kind ++ "s") := by
  have hprobe : ∀ rule ∈ role.rules, ∀ g ∈ rule.apiGroups, ∀ r ∈ rule.resources,
      (key g r ∈ probes i ↔
        PolicyRule.Names g i.group ∧ PolicyRule.Names r (i.kind ++ "s")) := by
    intro rule hr g hg r hr'
    apply key_mem_probes_iff (hgroups rule hr g hg) hi
    have hgs := hsigmas rule hr g (List.mem_append_left _ hg)
    have hrs := hsigmas rule hr r (List.mem_append_right _ hr')
    exact List.forall_mem_cons.mpr ⟨hgs, List.forall_mem_cons.mpr ⟨hrs, hsigma⟩⟩
  have hrole : (ofRole (some role)).allows i ↔ ∃ rule ∈ role.rules, rule.grantsReading ∧
      ∃ g ∈ rule.apiGroups, ∃ r ∈ rule.resources, key g r ∈ probes i := allows_ofRules_iff
  rw [hrole]
  refine exists_congr fun rule => and_congr_right fun hr => ?_
  rw [PolicyRule.grantsReading_iff]
  refine and_congr_right fun _ => exists_congr fun g => and_congr_right fun hg => ?_
  exact exists_congr fun r => and_congr_right fun hr' => hprobe rule hr g hg r hr'

def pondkeeper : Role :=
  ⟨[⟨["get", "watch"], ["*"], ["*"]⟩, ⟨["list"], ["*"], ["*"]⟩,
    ⟨["list", "create", "get", "watch"], ["Pond.org"], ["eggs", "GOOSES"]⟩]⟩

theorem allows_iff_single_rule_pondkeeper :
    (ofRole (some pondkeeper)).allows ⟨"pond.org/v1", "Goose"⟩ ∧
      ¬ (ofRole (some pondkeeper)).allows ⟨"pond.org/v1", "Swan"⟩ := by
  constructor
  · apply (allows_iff_single_rule pondkeeper ⟨"pond.org/v1", "Goose"⟩ (by decide +kernel)
      (by decide +kernel) (by decide +kernel) (by decide +kernel)).mpr
    decide +kernel
  · intro h
    have hrule := (allows_iff_single_rule pondkeeper ⟨"pond.org/v1", "Swan"⟩ (by decide +kernel)
      (by decide +kernel) (by decide +kernel) (by decide +kernel)).mp h
    revert hrule
    decide +kernel

/-- A sigma at the end of a group is lowered as inside a word, since a resource follows it in the
key; so the two groups have the same lowercase form and yet different keys. -/
example : PolicyRule.Names "\u03B1\u03C2" "\u0391\u03A3" ∧
    ¬ (ofRole (some ⟨[⟨["*"], ["\u03B1\u03C2"], ["gooses"]⟩]⟩)).allows
      ⟨"\u0391\u03A3/v1", "Goose"⟩ := by
  decide +kernel

end Grants
end DuckCensus
