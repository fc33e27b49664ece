import DuckCensus.Json
import Mathlib.Data.List.Basic

/-! What is read back of what was written: of numbers, lists and maps, and of the fields of an
object. -/
namespace DuckCensus.Json
open Std
variable {α β : Type}

def Undoes (read : β → Option α) (write : α → β) : Prop := ∀ x, read (write x) = some x

theorem undoes_text : Undoes text? text := fun _ => rfl

theorem undoes_int64 : Undoes int64? ofInt64 := by
  intro n
  have hmin : Int64.minValue.toInt ≤ n.toInt := Int64.le_iff_toInt_le.mp (Int64.minValue_le n)
  rw [ofInt64, int64?, if_pos ⟨hmin, n.toInt_le⟩, Int64.ofInt_toInt]

theorem count?_ofCount {n : Nat} (h : n < UInt64.size) : count? (ofCount n) = some n := by
  rw [ofCount, count?, if_pos ⟨Int.natCast_nonneg n, h⟩, Int.toNat_natCast]

theorem lt_of_count? {j : Json} {n : Nat} (h : count? j = some n) : n < UInt64.size := by
  cases j with
  | integer i =>
    rw [count?, Option.ite_none_right_eq_some] at h
    obtain ⟨⟨-, hlt⟩, hn⟩ := h
    rwa [Option.some_inj.mp hn] at hlt
  | _ => cases h

theorem Undoes.mapM {read : β → Option α} {write : α → β} (h : Undoes read write) (xs : List α) :
    (xs.map write).mapM read = some xs := by
  induction xs with
  | nil => rfl
  | cons x xs ih =>
    rw [List.map_cons, List.mapM_cons, h x, ih]
    rfl

theorem ofList_toList (m : ExtTreeMap String α) : ExtTreeMap.ofList m.toList = m := by
  refine ExtTreeMap.ext_getElem? fun key => ?_
  cases h : m[key]? with
  | none =>
    apply ExtTreeMap.getElem?_ofList_of_contains_eq_false
    rw [ExtTreeMap.map_fst_toList_eq_keys]
    simpa using h
  | some x =>
    exact ExtTreeMap.getElem?_ofList_of_mem (LawfulEqCmp.compare_eq_iff_eq.mpr rfl)
      m.distinct_keys_toList (ExtTreeMap.mem_toList_iff_getElem?_eq_some.mpr h)

variable {read : Json → Option α} {write : α → Json}

theorem Undoes.list (h : Undoes read write) : Undoes (list? read) (ofList write) := h.mapM

theorem Undoes.map (h : Undoes read write) : Undoes (map? read) (ofMap write) := by
  intro m
  have hentry : Undoes (fun p : String × Json => (read p.2).map (p.1, ·))
      fun p => (p.1, write p.2) := by
    intro p
    change (read (write p.2)).map (p.1, ·) = some p
    rw [h p.2, Option.map_some]
  exact Option.bind_eq_some_iff.mpr
    ⟨m.toList, hentry.mapM m.toList, congrArg some (ofList_toList m)⟩

/-! ## Fields -/

def present (fields : List (String × Option Json)) : List (String × Json) :=
  fields.filterMap fun (name, value?) => value?.map (name, ·)

@[simp] theorem fields?_ofFields (fields : List (String × Option Json)) :
    (ofFields fields).fields? = some (present fields) := rfl

@[simp] theorem lookup_present_nil (name : String) : (present []).lookup name = none := rfl

@[simp] theorem lookup_present_cons (name other : String) (value? : Option Json)
    (fields : List (String × Option Json)) :
    (present ((other, value?) :: fields)).lookup name =
      if name = other then value?.or ((present fields).lookup name)
      else (present fields).lookup name := by
  cases value? with
  | none => simp [present]
  | some j =>
    have hcons : present ((other, some j) :: fields) = (other, j) :: present fields := rfl
    rw [hcons, List.lookup_cons]
    by_cases h : name = other
    · simp [h]
    · rw [beq_false_of_ne h, if_neg h]

/-! What becomes of a field depends only on the value found under its name, and what was written is
read back from there. -/
section Found
variable (fs : List (String × Json)) (name : String)

def nullable (read : Json → Option α) : Json → Option (Option α)
  | null => some none
  | j => (read j).map some

@[simp] theorem required_eq_bind : required fs name read = (fs.lookup name).bind read := rfl

@[simp] theorem defaulted_eq_elim (x : α) :
    defaulted fs name read x = (fs.lookup name).elim (some x) read := by
  rw [defaulted]
  cases fs.lookup name with
  | none => rfl
  | some j => rfl

@[simp] theorem optional_eq_elim :
    optional fs name read = (fs.lookup name).elim (some none) (nullable read) := by
  rw [optional]
  cases fs.lookup name with
  | none => rfl
  | some j => cases j <;> rfl

@[simp] theorem unlessEmpty_elim (s : String) :
    (unlessEmpty s).elim (some "") text? = some s := by
  by_cases h : s = ""
  · rw [unlessEmpty, if_pos h, h, Option.elim_none]
  · rw [unlessEmpty, if_neg h, Option.elim_some, undoes_text]

theorem Undoes.unlessNil_elim (h : Undoes read write) (xs : List α) :
    (unlessNil write xs).elim (some []) (list? read) = some xs := by
  cases xs with
  | nil => rfl
  | cons x xs => exact h.list (x :: xs)

/-- No value may be written as null, since null is read as none. -/
theorem map_elim_nullable {x? : Option α} (h : ∀ x, x? = some x → read (write x) = some x)
    (hnull : ∀ x, write x ≠ null) :
    (x?.map write).elim (some none) (nullable read) = some x? := by
  cases x? with
  | none => rfl
  | some x =>
    have hx : nullable read (write x) = (read (write x)).map some := by
      cases hw : write x with
      | null => exact absurd hw (hnull x)
      | _ => rfl
    rw [Option.map_some, Option.elim_some, hx, h x rfl, Option.map_some]

theorem Undoes.map_elim (h : Undoes read write) (hnull : ∀ x, write x ≠ null) (x? : Option α) :
    (x?.map write).elim (some none) (nullable read) = some x? :=
  map_elim_nullable (fun x _ => h x) hnull

theorem exists_read_of_optional {x : α} (h : optional fs name read = some (some x)) :
    ∃ j, read j = some x := by
  rw [optional_eq_elim] at h
  cases hj : fs.lookup name with
  | none => simp [hj] at h
  | some j =>
    rw [hj, Option.elim_some] at h
    cases j with
    | null => cases h
    | _ =>
      obtain ⟨y, hy, hyx⟩ := Option.map_eq_some_iff.mp h
      exact ⟨_, hy.trans hyx⟩

end Found

/-! ## Layout -/

def HasFields (j : Json) (layout : List (String × Bool)) : Prop :=
  j.fields?.map (List.map Prod.fst) = some ((layout.filter (·.2)).map Prod.fst)

theorem map_fst_present (fields : List (String × Option Json)) :
    (present fields).map Prod.fst = (fields.filter (·.2.isSome)).map Prod.fst := by
  induction fields with
  | nil => rfl
  | cons field fields ih =>
    obtain ⟨name, value?⟩ := field
    cases value? with
    | none => simpa [present] using ih
    | some j => simpa [present] using ih

theorem hasFields_ofFields {fields : List (String × Option Json)} {layout : List (String × Bool)}
    (h : fields.map (fun (name, value?) => (name, value?.isSome)) = layout) :
    (ofFields fields).HasFields layout := by
  rw [HasFields, fields?_ofFields, Option.map_some, map_fst_present, ← h, List.filter_map,
    List.map_map]
  rfl

@[simp] theorem isSome_unlessEmpty (s : String) : (unlessEmpty s).isSome = decide (s ≠ "") := by
  by_cases h : s = "" <;> simp [unlessEmpty, h]

@[simp] theorem isSome_unlessNil (xs : List α) :
    (unlessNil write xs).isSome = decide (xs ≠ []) := by
  cases xs with
  | nil => rfl
  | cons x xs => rfl

/-! ## Types of objects -/

/-- Whatever was read is read again from what is written of it. -/
def Rereads (read : β → Option α) (write : α → β) : Prop :=
  ∀ j x, read j = some x → read (write x) = some x

theorem Undoes.rereads {read : β → Option α} {write : α → β} (h : Undoes read write) :
    Rereads read write := fun _ x _ => h x

/-- Values in range are read back as they were written, what was read is in range, and an object
has just the fields that its layout marks as written. -/
structure Exchanged (read : Json → Option α) (write : α → Json) (inRange : α → Prop)
    (layout : α → List (String × Bool)) : Prop where
  read_write : ∀ x, inRange x → read (write x) = some x
  rereads : Rereads read write
  hasFields : ∀ x, (write x).HasFields (layout x)

theorem Undoes.exchanged {layout : α → List (String × Bool)} (h : Undoes read write)
    (hlayout : ∀ x, (write x).HasFields (layout x)) :
    Exchanged read write (fun _ => True) layout :=
  ⟨fun x _ => h x, h.rereads, hlayout⟩

end DuckCensus.Json
