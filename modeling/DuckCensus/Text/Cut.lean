import DuckCensus.Text.Characters
import Std.Data.ExtTreeSet.Lemmas

/-! Cutting a text: white space off its ends, behind a known start, at a mark, out of its
parentheses, or at the commas of a list. -/
namespace DuckCensus.Text
open Std

def allBlank (cs : List Char) : Bool := cs.all isBlank

def trimStart (cs : List Char) : List Char := cs.dropWhile isBlank

def trimEnd (cs : List Char) : List Char := (trimStart cs.reverse).reverse

def trim (cs : List Char) : List Char := trimEnd (trimStart cs)

def firstWord (cs : List Char) : List Char := cs.takeWhile (!isBlank ·)

def afterFirstWord (cs : List Char) : List Char := cs.dropWhile (!isBlank ·)

theorem firstWord_append_afterFirstWord (cs : List Char) :
    firstWord cs ++ afterFirstWord cs = cs := List.takeWhile_append_dropWhile

def behind? : (start : List Char) → List Char → Option (List Char)
  | [], cs => some cs
  | _ :: _, [] => none
  | s :: start, c :: cs => if s = c then behind? start cs else none

/-- The text before and the text after the first occurrence of `mark`, which is not empty. -/
def cutAt? (mark : List Char) : List Char → Option (List Char × List Char)
  | [] => none
  | c :: cs =>
    match behind? mark (c :: cs) with
    | some after => some ([], after)
    | none => (cutAt? mark cs).map fun (before, after) => (c :: before, after)

def betweenParentheses? : List Char → Option (List Char)
  | '(' :: body => if body.getLast? = some ')' then some body.dropLast else none
  | _ => none

theorem behind?_eq_some_iff {start cs rest : List Char} :
    behind? start cs = some rest ↔ cs = start ++ rest := by
  fun_induction behind? start cs <;> simp_all [eq_comm]

/-- A cut loses nothing but the mark. -/
theorem eq_of_cutAt?_eq_some {mark cs before after : List Char}
    (h : cutAt? mark cs = some (before, after)) : cs = before ++ mark ++ after := by
  induction cs generalizing before with
  | nil => simp [cutAt?] at h
  | cons c cs ih =>
    rw [cutAt?] at h
    split at h
    next rest hr =>
      cases h
      simpa using behind?_eq_some_iff.mp hr
    next =>
      obtain ⟨⟨b, a⟩, hb, he⟩ := Option.map_eq_some_iff.mp h
      cases he
      simp [ih hb]

theorem betweenParentheses?_eq_some_iff {cs body : List Char} :
    betweenParentheses? cs = some body ↔ cs = '(' :: body ++ [')'] := by
  constructor
  · intro h
    unfold betweenParentheses? at h
    split at h
    next body' =>
      split at h
      next hl =>
        obtain ⟨ys, rfl⟩ := List.getLast?_eq_some_iff.mp hl
        simpa using h
      next => simp at h
    next => simp at h
  · rintro rfl
    simp [betweenParentheses?]

/-! Of a list with commas the items are trimmed, empty ones dropped, and their order and number
forgotten. -/

def items (cs : List Char) : List (List Char) := ((cs.splitOn ',').map trim).filter (· ≠ [])

def tokens (cs : List Char) : ExtTreeSet String := .ofList ((items cs).map String.ofList)

end DuckCensus.Text
