import Mathlib.Data.Char
import Mathlib.Data.List.Lex

/-! Texts are ordered by their characters, which is the order of their UTF-8 bytes. -/
namespace DuckCensus.Text

def bytes (s : String) : List UInt8 := s.toByteArray.data.toList

theorem bytes_eq_flatMap (s : String) : bytes s = s.toList.flatMap String.utf8EncodeChar := by
  rw [bytes, ← String.utf8Encode_toList, List.utf8Encode]
  simp

/-- The form of a later character is later, whatever follows the two. -/
theorem utf8EncodeChar_append_lt {c d : Char} (h : c < d) (xs ys : List UInt8) :
    String.utf8EncodeChar c ++ xs < String.utf8EncodeChar d ++ ys := by
  have hlt : c.val.toNat < d.val.toNat := h
  have hd : d.val.toNat < 0x110000 := by
    obtain hv | hv := d.valid
    · exact hv.trans (by decide)
    · exact hv.2
  simp only [String.utf8EncodeChar]
  split_ifs <;>
    simp only [List.cons_append, List.nil_append, List.cons_lt_cons_iff, UInt8.lt_iff_toNat_lt,
      ← UInt8.toNat_inj, UInt8.toNat_ofNat'] <;>
    simp (disch := omega) only [Nat.mod_eq_of_lt] <;> omega

theorem bytes_lt_of_lt {s t : List Char} (h : s < t) :
    s.flatMap String.utf8EncodeChar < t.flatMap String.utf8EncodeChar := by
  induction s generalizing t with
  | nil =>
    cases t with
    | nil => exact absurd h (List.lt_irrefl [])
    | cons d t =>
      have hd : String.utf8EncodeChar d ≠ [] := by
        intro hn
        have hl := congrArg List.length hn
        have hp := d.utf8Size_pos
        rw [String.length_utf8EncodeChar, List.length_nil] at hl
        omega
      obtain ⟨b, bs, hb⟩ := List.exists_cons_of_ne_nil hd
      simp [hb]
  | cons c s ih =>
    cases t with
    | nil => exact absurd h (List.not_lt_nil _)
    | cons d t =>
      rw [List.flatMap_cons, List.flatMap_cons]
      obtain hcd | ⟨rfl, hst⟩ := List.cons_lt_cons_iff.mp h
      · exact utf8EncodeChar_append_lt hcd _ _
      · exact List.append_left_lt (ih hst)

theorem lt_iff_bytes_lt {s t : String} : s < t ↔ bytes s < bytes t := by
  rw [bytes_eq_flatMap, bytes_eq_flatMap, String.lt_iff]
  refine ⟨bytes_lt_of_lt, ?_⟩
  intro h
  obtain hst | hst | hst := lt_trichotomy s.toList t.toList
  · exact hst
  · rw [hst] at h
    exact absurd h (List.lt_irrefl _)
  · exact absurd (bytes_lt_of_lt hst) (List.lt_asymm h)

theorem compare_eq_lt_iff {s t : String} : compare s t = .lt ↔ bytes s < bytes t :=
  compareOfLessAndEq_eq_lt.trans lt_iff_bytes_lt

end DuckCensus.Text
