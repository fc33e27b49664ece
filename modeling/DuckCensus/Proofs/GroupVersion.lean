import DuckCensus.Proofs.Census.Buckets
import Mathlib.Data.List.TakeWhile

/-! An API version is read back as the group and the version that it was written from unless the
version holds a slash, and every text is written again as it was unless it begins with its last
slash. Until then the API version and the kind tell ducks apart. -/
namespace DuckCensus

namespace GroupVersion
variable {text version : String} {gv : GroupVersion}

theorem toList_slash (group version : String) :
    (group ++ "/" ++ version).toList = group.toList ++ '/' :: version.toList := by
  simp

theorem ne_slash_of_mem_reverse (h : '/' ∉ text.toList) :
    ∀ c ∈ text.toList.reverse, decide (c ≠ '/') = true := by
  intro c hc
  exact decide_eq_true fun he => h (he ▸ List.mem_reverse.mp hc)

/-- A text without a slash is a version of the core group. -/
theorem read_of_no_slash (h : '/' ∉ text.toList) : read text = ⟨"", text⟩ := by
  have hdrop : text.toList.reverse.dropWhile (· ≠ '/') = [] :=
    List.dropWhile_eq_nil_iff.mpr (ne_slash_of_mem_reverse h)
  simp only [read, readReversed, hdrop, List.reverse_reverse, String.ofList_toList]

/-- A slash with none behind it is where a text is cut. -/
theorem read_slash (group : String) (h : '/' ∉ version.toList) :
    read (group ++ "/" ++ version) = ⟨group, version⟩ := by
  have hrev : (group ++ "/" ++ version).toList.reverse =
      version.toList.reverse ++ '/' :: group.toList.reverse := by
    rw [toList_slash, List.reverse_append, List.reverse_cons, List.append_assoc,
      List.singleton_append]
  have hdrop : (group ++ "/" ++ version).toList.reverse.dropWhile (· ≠ '/') =
      '/' :: group.toList.reverse := by
    rw [hrev, List.dropWhile_append_of_pos (ne_slash_of_mem_reverse h)]
    rfl
  have htake : (group ++ "/" ++ version).toList.reverse.takeWhile (· ≠ '/') =
      version.toList.reverse := by
    rw [hrev, List.takeWhile_append_of_pos (ne_slash_of_mem_reverse h)]
    exact List.append_nil _
  simp only [read, readReversed, hdrop, htake, List.reverse_reverse, String.ofList_toList]

theorem exists_last_slash (h : '/' ∈ text.toList) :
    ∃ group version : String, '/' ∉ version.toList ∧ text = group ++ "/" ++ version := by
  obtain ⟨behind, before, hr, hb⟩ := List.eq_append_cons_of_mem (List.mem_reverse.mpr h)
  refine ⟨String.ofList before.reverse, String.ofList behind.reverse, ?_, ?_⟩
  · rwa [String.toList_ofList, List.mem_reverse]
  · rw [← String.toList_inj, toList_slash, String.toList_ofList, String.toList_ofList,
      ← List.reverse_reverse text.toList, hr]
    simp

theorem slash_not_mem_version (text : String) : '/' ∉ (read text).version.toList := by
  by_cases h : '/' ∈ text.toList
  · obtain ⟨group, version, hv, rfl⟩ := exists_last_slash h
    rwa [read_slash group hv]
  · rwa [read_of_no_slash h]

theorem read_text (h : '/' ∉ gv.version.toList) : read gv.text = gv := by
  rw [GroupVersion.text]
  by_cases hg : gv.group = ""
  · rw [if_pos hg, read_of_no_slash h, ← hg]
  · rw [if_neg hg, read_slash gv.group h]

theorem read_text_eq_iff : read gv.text = gv ↔ '/' ∉ gv.version.toList := by
  refine ⟨?_, read_text⟩
  intro h
  rw [← h]
  exact slash_not_mem_version gv.text

/-- What stands before the last slash is lost if it is empty, and nothing else ever is. -/
theorem text_read_eq_iff : (read text).text = text ↔
    ∀ group version : String, '/' ∉ version.toList → text = group ++ "/" ++ version →
      group ≠ "" := by
  constructor
  · rintro h group version hv rfl rfl
    rw [read_slash "" hv, GroupVersion.text, if_pos rfl] at h
    have hself : version = "" ++ "/" ++ version := h
    refine hv ?_
    rw [hself, toList_slash]
    exact List.mem_append_right _ List.mem_cons_self
  · intro h
    by_cases hs : '/' ∈ text.toList
    · obtain ⟨group, version, hv, rfl⟩ := exists_last_slash hs
      rw [read_slash group hv, GroupVersion.text, if_neg (h group version hv rfl)]
    · rw [read_of_no_slash hs, GroupVersion.text, if_pos rfl]

theorem text_inj {gv' : GroupVersion} (h : '/' ∉ gv.version.toList)
    (h' : '/' ∉ gv'.version.toList) : gv.text = gv'.text ↔ gv = gv' := by
  refine ⟨?_, congrArg GroupVersion.text⟩
  intro ht
  rw [← read_text h, ← read_text h', ht]

end GroupVersion

namespace Duck
variable {group version kind group' version' kind' : String} {scope scope' : Scope}

theorem groupVersion_ofGroup (h : '/' ∉ version.toList) :
    (ofGroup group version kind scope).groupVersion = ⟨group, version⟩ :=
  GroupVersion.read_text h

/-- Ducks of the same identity have everything in common that they were made from. -/
theorem toIdentity_ofGroup_eq_iff (h : '/' ∉ version.toList) (h' : '/' ∉ version'.toList) :
    (ofGroup group version kind scope).toIdentity =
        (ofGroup group' version' kind' scope').toIdentity ↔
      group = group' ∧ version = version' ∧ kind = kind' := by
  have ht : (GroupVersion.mk group version).text = (GroupVersion.mk group' version').text ↔
      GroupVersion.mk group version = GroupVersion.mk group' version' :=
    GroupVersion.text_inj h h'
  simp only [ofGroup, Identity.mk.injEq, ht, GroupVersion.mk.injEq, and_assoc]

/-- What was seen is found under its own group, version and kind. -/
theorem exists_lists_ofGroup {c : Census} {duckVersion : String} (h : '/' ∉ version.toList)
    (hs : ⟨duckVersion, ofGroup group version kind scope⟩ ∈ c.sightings) :
    ∃ duck, c.findings.Lists duckVersion duck ∧
      duck.group = group ∧ duck.version = version ∧ duck.kind = kind := by
  obtain ⟨duck, hl, hi⟩ :=
    Census.exists_findings_lists_iff_exists_sighting.mpr ⟨_, hs, rfl, rfl⟩
  have hgv : duck.groupVersion = ⟨group, version⟩ := by
    rw [hi]
    exact groupVersion_ofGroup h
  refine ⟨duck, hl, congrArg GroupVersion.group hgv, congrArg GroupVersion.version hgv, ?_⟩
  rw [hi]
  rfl

end Duck

namespace GroupVersion

/-- Reading undoes writing for versions without a slash and no others, and writing undoes reading
unless the last slash comes first. A version that is read has no slash. So a duck keeps the group
and the version that it is made of, ducks of different ones are never the same, and each is found.
-/
theorem read_and_text_inverse :
    (∀ group version : String,
      read (mk group version).text = ⟨group, version⟩ ↔ '/' ∉ version.toList) ∧
    (∀ text : String, (read text).text = text ↔
      ∀ group version : String, '/' ∉ version.toList → text = group ++ "/" ++ version →
        group ≠ "") ∧
    (∀ text : String, '/' ∉ (read text).version.toList) ∧
    (∀ (group version kind : String) (scope : Scope), '/' ∉ version.toList →
      (Duck.ofGroup group version kind scope).group = group ∧
      (Duck.ofGroup group version kind scope).version = version) ∧
    (∀ (group version kind group' version' kind' : String) (scope scope' : Scope),
      '/' ∉ version.toList → '/' ∉ version'.toList →
        ((Duck.ofGroup group version kind scope).toIdentity =
            (Duck.ofGroup group' version' kind' scope').toIdentity ↔
          group = group' ∧ version = version' ∧ kind = kind')) ∧
    ∀ (c : Census) (duckVersion group version kind : String) (scope : Scope),
      '/' ∉ version.toList →
      ⟨duckVersion, Duck.ofGroup group version kind scope⟩ ∈ c.sightings →
        ∃ duck, c.findings.Lists duckVersion duck ∧
          duck.group = group ∧ duck.version = version ∧ duck.kind = kind := by
  refine ⟨fun _ _ => read_text_eq_iff, fun _ => text_read_eq_iff, slash_not_mem_version, ?_, ?_, ?_⟩
  · intro group version kind scope h
    have hgv : (Duck.ofGroup group version kind scope).groupVersion = ⟨group, version⟩ :=
      Duck.groupVersion_ofGroup h
    exact ⟨congrArg GroupVersion.group hgv, congrArg GroupVersion.version hgv⟩
  · intro group version kind group' version' kind' scope scope' h h'
    exact Duck.toIdentity_ofGroup_eq_iff h h'
  · intro c duckVersion group version kind scope h hs
    exact Duck.exists_lists_ofGroup h hs

/-- The slash of the first pond belongs to its group. -/
theorem read_and_text_inverse_ponds :
    read (mk "pond/north" "v1").text = ⟨"pond/north", "v1"⟩ ∧
    read (mk "pond" "north/v1").text ≠ ⟨"pond", "north/v1"⟩ ∧
    (read "/v1").text ≠ "/v1" ∧
    (Duck.ofGroup "pond/north" "v1" "Goose" .cluster).group = "pond/north" ∧
    (Duck.ofGroup "pond/north" "v1" "Goose" .cluster).toIdentity ≠
      (Duck.ofGroup "pond" "v1" "Goose" .cluster).toIdentity ∧
    ∃ duck, ((Census.start { defaultVersions := ["v2"] }).addDefinition
        ⟨{}, "pond/north", .cluster, "Goose", [⟨"v1", true⟩]⟩).findings.Lists "v2" duck ∧
      duck.group = "pond/north" ∧ duck.version = "v1" ∧ duck.kind = "Goose" := by
  obtain ⟨hread, htext, -, hduck, hsame, hfound⟩ := read_and_text_inverse
  refine ⟨(hread _ _).mpr (by decide), ?_, ?_, (hduck _ _ _ _ (by decide)).1, ?_, ?_⟩
  · intro h
    exact absurd ((hread _ _).mp h) (by decide)
  · intro h
    exact (htext _).mp h "" "v1" (by decide) rfl rfl
  · intro h
    exact absurd ((hsame _ _ _ _ _ _ _ _ (by decide) (by decide)).mp h).1 (by decide)
  · exact hfound _ _ _ _ _ .cluster (by decide) (by decide +kernel)

end GroupVersion
end DuckCensus
