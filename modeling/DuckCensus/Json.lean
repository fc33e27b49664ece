import Std.Data.ExtTreeMap.Lemmas

/-! Structured values in which objects are exchanged, and how typed values are read out of them.
A value of another type is refused and never converted. -/
namespace DuckCensus
open Std

inductive Json where
  | null
  | bool (b : Bool)
  | integer (n : Int)
  /-- A number with a fraction: the mantissa and its number of decimal places. -/
  | decimal (mantissa : Int) (places : Nat)
  | text (s : String)
  | array (items : List Json)
  | object (fields : List (String × Json))
  deriving Inhabited

namespace Json
variable {α β : Type}

def bool? : Json → Option Bool
  | bool b => some b
  | _ => none

def text? : Json → Option String
  | text s => some s
  | _ => none

def int64? : Json → Option Int64
  | integer n =>
    if Int64.minValue.toInt ≤ n ∧ n ≤ Int64.maxValue.toInt then some (Int64.ofInt n) else none
  | _ => none

def count? : Json → Option Nat
  | integer n => if 0 ≤ n ∧ n.toNat < UInt64.size then some n.toNat else none
  | _ => none

def fields? : Json → Option (List (String × Json))
  | object fields => some fields
  | _ => none

def list? (item? : Json → Option α) : Json → Option (List α)
  | array items => items.mapM item?
  | _ => none

def pair? (first? : Json → Option α) (second? : Json → Option β) : Json → Option (α × β)
  | array [a, b] => do return (← first? a, ← second? b)
  | _ => none

def map? (value? : Json → Option α) (j : Json) : Option (ExtTreeMap String α) := do
  let fields ← j.fields?
  let entries ← fields.mapM fun (key, j) => (value? j).map (key, ·)
  return .ofList entries

def ofCount (n : Nat) : Json := integer n

def ofInt64 (n : Int64) : Json := integer n.toInt

def ofList (item : α → Json) (xs : List α) : Json := array (xs.map item)

def ofMap (value : α → Json) (m : ExtTreeMap String α) : Json :=
  object (m.toList.map fun (key, x) => (key, value x))

/-! The fields of an object: which may be missing, and which may be null -/

def ofFields (fields : List (String × Option Json)) : Json :=
  object (fields.filterMap fun (name, value?) => value?.map (name, ·))

def unlessEmpty (s : String) : Option Json := if s = "" then none else some (text s)

def unlessNil (item : α → Json) (xs : List α) : Option Json :=
  if xs.isEmpty then none else some (ofList item xs)

def required (fields : List (String × Json)) (name : String) (read : Json → Option α) : Option α :=
  (fields.lookup name).bind read

def defaulted (fields : List (String × Json)) (name : String) (read : Json → Option α)
    (default : α) : Option α :=
  -- null is no value for the field
  match fields.lookup name with
  | none => some default
  | some j => read j

def optional (fields : List (String × Json)) (name : String) (read : Json → Option α) :
    Option (Option α) :=
  match fields.lookup name with
  | none => some none
  | some null => some none
  | some j => (read j).map some

def lenient (fields : List (String × Json)) (name : String) (read : Json → Option α)
    (default : α) : Option α :=
  (optional fields name read).map (·.getD default)

def stamped (fields : List (String × Json)) (name value : String) : Option Unit :=
  match fields.lookup name with
  | none => some ()
  | some (text s) => if s = value then some () else none
  | some _ => none

end Json
end DuckCensus
