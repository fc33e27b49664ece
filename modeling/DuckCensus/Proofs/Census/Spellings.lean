import DuckCensus.Proofs.Census.References
import DuckCensus.Proofs.Census.Reordering

/-! References that are spelled differently and mean the same. The API version is written in one
text or in two, and the kind is named or told by its resource. -/
namespace DuckCensus
open Std

namespace Reference

def namingKind (gv : GroupVersion) (kind : String) (scope : Option Scope) : List Reference :=
  [ { group := gv.group, version := gv.version, kind, scope },
    { apiVersion := gv.text, kind, scope } ]

def namingResource (gv : GroupVersion) (resource : String) (scope : Option Scope) :
    List Reference :=
  [ { group := gv.group, version := gv.version, resource, scope },
    { apiVersion := gv.text, resource, scope } ]

/-- The four spellings of what a kind and the resource of that kind mean. -/
def spellings (gv : GroupVersion) (resource kind : String) (scope : Option Scope) :
    List Reference :=
  namingKind gv kind scope ++ namingResource gv resource scope

variable {gv : GroupVersion} {resource kind : String} {scope : Option Scope} {r : Reference}

/-- An API version that is empty in one text is empty in two. -/
theorem target_apiVersion_text (gv : GroupVersion) (resource kind : String)
    (scope : Option Scope) :
    ({ apiVersion := gv.text, resource, kind, scope } : Reference).target = gv.text := by
  rw [target]
  by_cases h : gv.text = ""
  · rw [if_pos h, h]
    rfl
  · rw [if_neg h]

theorem of_mem_namingKind (h : r ∈ namingKind gv kind scope) :
    r.target = gv.text ∧ r.kind = kind ∧ r.scope = scope := by
  simp only [namingKind, List.mem_cons, List.not_mem_nil, or_false] at h
  obtain rfl | rfl := h
  · exact ⟨rfl, rfl, rfl⟩
  · exact ⟨target_apiVersion_text gv "" kind scope, rfl, rfl⟩

theorem of_mem_namingResource (h : r ∈ namingResource gv resource scope) :
    r.target = gv.text ∧ r.kind = "" ∧ r.resource = resource ∧ r.scope = scope := by
  simp only [namingResource, List.mem_cons, List.not_mem_nil, or_false] at h
  obtain rfl | rfl := h
  · exact ⟨rfl, rfl, rfl, rfl⟩
  · exact ⟨target_apiVersion_text gv resource "" scope, rfl, rfl, rfl⟩

end Reference

namespace Settings
variable {s : Settings} {ls : List Listing} {gv : GroupVersion} {resource kind : String}
  {scope : Option Scope} {r : Reference}

theorem resolve_spelling (hc : s.catalog = some (.ofListings ls))
    (hk : (Catalog.ofListings ls).kindFor gv.text resource = .ok kind) (hne : kind ≠ "")
    (hr : r ∈ Reference.spellings gv resource kind scope) :
    s.resolve r = .ok { apiVersion := gv.text, kind, scope := scope.getD .assumed } := by
  have hfound := Catalog.kindFor_eq_ok_iff.mp hk
  have hknown : s.catalog.all (·.hasKind gv.text kind) := by
    rw [hc, Option.all_some]
    exact (Catalog.closed_ofListings ls).hasKind_of_kind? hfound
  rw [resolve_eq_ok_iff]
  cases List.mem_append.mp hr with
  | inl hr =>
    obtain ⟨ht, hkind, hscope⟩ := Reference.of_mem_namingKind hr
    refine ⟨kind, kindOf_eq_ok_iff.mpr (Or.inl ⟨hkind ▸ hne, hkind.symm⟩), ?_, ?_⟩
    · rwa [ht]
    · rw [ht, hscope]
  | inr hr =>
    obtain ⟨ht, hkind, hresource, hscope⟩ := Reference.of_mem_namingResource hr
    refine ⟨kind, kindOf_eq_ok_iff.mpr (Or.inr ⟨hkind, _, hc, ?_⟩), ?_, ?_⟩
    · rwa [ht, hresource]
    · rwa [ht]
    · rw [ht, hscope]

end Settings

namespace Census

theorem addReference_of_resolve {c : Census} {v : String} {r : Reference} {duck : Duck}
    (h : c.settings.resolve r = .ok duck) :
    c.addReference v r = .ok (c.add { declared := [v], sightings := [⟨v, duck⟩] }) := by
  rw [addReference, tryReference_of_resolve h, take, Settings.yieldSource_of_resolve h]

/-- To any census with the catalog the four spellings add one and the same. -/
theorem exists_yield_of_spellings {ls : List Listing} {gv : GroupVersion} {resource kind : String}
    (v : String) (scope : Option Scope)
    (hk : (Catalog.ofListings ls).kindFor gv.text resource = .ok kind) (hne : kind ≠ "") :
    ∃ y, ∀ c : Census, c.settings.catalog = some (.ofListings ls) →
      ∀ a ∈ Reference.spellings gv resource kind scope, c.addReference v a = .ok (c.add y) :=
  ⟨_, fun _ hc _ ha => addReference_of_resolve (Settings.resolve_spelling hc hk hne ha)⟩

/-- What is yielded again was seen before. -/
theorem findings_add_add (c : Census) (y : Yield) :
    ((c.add y).add y).findings = (c.add y).findings := by
  refine findings_congr rfl fun v i => ?_
  have hss : ((c.add y).add y).sightings = (c.add y).sightings ++ y.sightings := rfl
  have hs : (c.add y).sightings = c.sightings ++ y.sightings := rfl
  rw [hss, hs, firstScope?_append, firstScope?_append, Option.or_assoc, Option.or_self]

theorem versions_add_add (c : Census) (y : Yield) :
    ((c.add y).add y).versions = (c.add y).versions := by
  refine congrArg ExtTreeSet.toList (ExtTreeSet.ext_mem fun v => ?_)
  simp [add]

/-- With a catalog that has a kind behind a resource the four spellings succeed and lead to one and
the same census, which finds and declares nothing more by any second one. A resource or a kind that
is not known fails alike in its two spellings. -/
theorem spellings_interchangeable (c : Census) (v : String) (ls : List Listing)
    (hc : c.settings.catalog = some (.ofListings ls)) (gv : GroupVersion) (resource kind : String)
    (scope : Option Scope) :
    ((Catalog.ofListings ls).kindFor gv.text resource = .ok kind → kind ≠ "" →
      ∃ c', (∀ a ∈ Reference.spellings gv resource kind scope, c.addReference v a = .ok c') ∧
        ∀ a ∈ Reference.spellings gv resource kind scope,
        ∀ b ∈ Reference.spellings gv resource kind scope,
          ∃ c'', (c.addReference v a >>= (·.addReference v b)) = .ok c'' ∧
            c''.findings = c'.findings ∧ c''.versions = c'.versions) ∧
    (¬ (Catalog.ofListings ls).hasResource gv.text resource →
      ∀ a ∈ Reference.namingResource gv resource scope,
        c.addReference v a = .error (.kindNotFound resource gv.text)) ∧
    (kind ≠ "" → ¬ (Catalog.ofListings ls).hasKind gv.text kind →
      ∀ a ∈ Reference.namingKind gv kind scope,
        c.addReference v a = .error (.unknownResource kind gv.text)) := by
  refine ⟨?_, ?_, ?_⟩
  · intro hk hne
    obtain ⟨y, hadd⟩ := exists_yield_of_spellings v scope hk hne
    refine ⟨c.add y, hadd c hc, fun a ha b hb => ⟨(c.add y).add y, ?_, ?_⟩⟩
    · exact bind_eq_ok_iff.mpr ⟨c.add y, hadd c hc a ha, hadd (c.add y) hc b hb⟩
    · exact ⟨findings_add_add c y, versions_add_add c y⟩
  · intro hn a ha
    obtain ⟨ht, hkind, hresource, -⟩ := Reference.of_mem_namingResource ha
    rw [addReference_eq_error_iff, ← ht, ← hresource]
    rw [← ht, ← hresource] at hn
    exact (Settings.resolve_of_resource hc (Catalog.closed_ofListings ls) hkind).2 hn
  · intro hne hn a ha
    obtain ⟨ht, hkind, -⟩ := Reference.of_mem_namingKind ha
    rw [addReference_eq_error_iff, ← ht, ← hkind]
    rw [← ht, ← hkind] at hn
    exact (Settings.resolve_of_kind hc (hkind ▸ hne)).2 hn

/-- Goslings and geese have one resource, and by it the goslings are meant. Eggs are only part of
one. -/
theorem spellings_interchangeable_goslings :
    (∃ c', goslings.addReference "v1" { group := "pond.org", version := "v1", kind := "Gosling" } =
        .ok c' ∧
      goslings.addReference "v1" { apiVersion := "pond.org/v1", resource := "geese" } = .ok c' ∧
      ∃ c'', (goslings.addReference "v1" { apiVersion := "pond.org/v1", resource := "geese" } >>=
          (·.addReference "v1" { group := "pond.org", version := "v1", kind := "Gosling" })) =
        .ok c'' ∧ c''.findings = c'.findings) ∧
    goslings.addReference "v1" { group := "pond.org", version := "v1", resource := "geese/eggs" } =
      .error (.kindNotFound "geese/eggs" "pond.org/v1") ∧
    goslings.addReference "v1" { apiVersion := "pond.org/v1", kind := "Egg" } =
      .error (.unknownResource "Egg" "pond.org/v1") := by
  obtain ⟨hok, -, -⟩ := spellings_interchangeable goslings "v1" _ rfl ⟨"pond.org", "v1"⟩ "geese"
    "Gosling" none
  obtain ⟨-, hresource, hkind⟩ := spellings_interchangeable goslings "v1" _ rfl
    ⟨"pond.org", "v1"⟩ "geese/eggs" "Egg" none
  obtain ⟨c', hadd, htwice⟩ := hok (by decide +kernel) (by decide)
  have hbykind : { group := "pond.org", version := "v1", kind := "Gosling" } ∈
      Reference.spellings ⟨"pond.org", "v1"⟩ "geese" "Gosling" none := by decide
  have hbyresource : { apiVersion := "pond.org/v1", resource := "geese" } ∈
      Reference.spellings ⟨"pond.org", "v1"⟩ "geese" "Gosling" none := by decide
  refine ⟨⟨c', hadd _ hbykind, hadd _ hbyresource, ?_⟩, ?_, ?_⟩
  · obtain ⟨c'', h, hf, -⟩ := htwice _ hbyresource _ hbykind
    exact ⟨c'', h, hf⟩
  · exact hresource (by decide +kernel) _ (by decide)
  · exact hkind (by decide) (by decide +kernel) _ (by decide)

end Census
end DuckCensus
