import DuckCensus.Definition
import DuckCensus.Failure

/-! Label selectors: lists of requirements that must all hold, written with commas between them. A
comma inside parentheses separates values and not clauses. Of a clause the operators are tried in a
fixed order wherever they stand, and the first that occurs decides: a leading exclamation mark,
`!=`, `==`, `=`. A clause with none of them is a lone key, or a key with white space and a set
operator behind it. -/
namespace DuckCensus
open Std Text

inductive Requirement where
  | isIn (key : String) (values : ExtTreeSet String)
  | notIn (key : String) (values : ExtTreeSet String)
  | equals (key value : String)
  | differs (key value : String)
  | present (key : String)
  | absent (key : String)
  deriving DecidableEq

namespace Requirement

def holds (labels : Labels) : Requirement → Bool
  | isIn key values => labels[key]?.any (· ∈ values)
  | notIn key values => labels[key]?.all (· ∉ values)
  | equals key value => labels[key]? == some value
  | differs key value => labels[key]? != some value
  | present key => key ∈ labels
  | absent key => key ∉ labels

def valueList (values : ExtTreeSet String) : String := ",".intercalate values.toList

def text : Requirement → String
  | isIn key values => key ++ " in (" ++ valueList values ++ ")"
  | notIn key values => key ++ " notin (" ++ valueList values ++ ")"
  | equals key value => key ++ "=" ++ value
  | differs key value => key ++ "!=" ++ value
  | present key => key
  | absent key => "!" ++ key

end Requirement

/-! Clauses -/

namespace Selector

def depthAfter (depth : Nat) (c : Char) : Nat :=
  if c = '(' then depth + 1
  -- a parenthesis that closes nothing is ignored
  else if c = ')' then depth - 1
  else depth

def endDepth (depth : Nat) (cs : List Char) : Nat := cs.foldl depthAfter depth

/-- The parts of a text between the commas that are outside all parentheses. -/
def pieces (depth : Nat) : List Char → List (List Char)
  | [] => [[]]
  | c :: cs =>
    if c = ',' ∧ depth = 0 then [] :: pieces 0 cs
    else (pieces (depthAfter depth c) cs).modifyHead (c :: ·)

def clauses (cs : List Char) : Except Fault (List (List Char)) :=
  if endDepth 0 cs = 0 then .ok ((pieces 0 cs).filter (!allBlank ·))
  -- the fault shows the piece in which the text ends
  else .error ⟨.unterminatedSet, String.ofList (trim ((pieces 0 cs).getLastD []))⟩

theorem endDepth_append (depth : Nat) (a b : List Char) :
    endDepth depth (a ++ b) = endDepth (endDepth depth a) b := List.foldl_append

theorem pieces_ne_nil (depth : Nat) (cs : List Char) : pieces depth cs ≠ [] := by
  fun_induction pieces depth cs <;> simp_all [List.modifyHead_eq_nil_iff]

/-- The pieces with their commas are the text. -/
theorem intercalate_pieces (depth : Nat) (cs : List Char) :
    [','].intercalate (pieces depth cs) = cs := by
  fun_induction pieces depth cs with
  | case1 => rfl
  | case2 depth c cs h ih =>
    obtain ⟨p, ps, hp⟩ := List.exists_cons_of_ne_nil (pieces_ne_nil 0 cs)
    simp_all [List.intercalate]
  | case3 depth c cs h ih =>
    obtain ⟨p, ps, hp⟩ := List.exists_cons_of_ne_nil (pieces_ne_nil (depthAfter depth c) cs)
    rw [hp] at ih ⊢
    cases ps <;> simp_all [List.intercalate]

end Selector

/-! One clause. Every fault shows the whole of it. -/

namespace Requirement
open Selector

def isKeyChar (c : Char) : Bool := !isBlank c && c ∉ ['(', ')', '=', '!', ',']

def readKey (clause key : List Char) : Except Fault String :=
  let key := trim key
  if key = [] then .error ⟨.missingKey, String.ofList clause⟩
  else if key.all isKeyChar then .ok (String.ofList key)
  else .error ⟨.unknownOperator, String.ofList clause⟩

-- the parenthesis may touch the operator
def endsOperator (rest : List Char) : Bool := rest.head?.any fun c => isBlank c || c = '('

def readSetOperator (cs : List Char) :
    Option ((String → ExtTreeSet String → Requirement) × List Char) :=
  match behind? ['n', 'o', 't', 'i', 'n'] cs, behind? ['i', 'n'] cs with
  | some rest, _ => if endsOperator rest then some (notIn, rest) else none
  | none, some rest => if endsOperator rest then some (isIn, rest) else none
  | none, none => none

def readSet (clause cs : List Char) : Except Fault (ExtTreeSet String) :=
  match betweenParentheses? (trim cs) with
  | none => .error ⟨.unterminatedSet, String.ofList clause⟩
  | some body =>
    if items body = [] then .error ⟨.emptySet, String.ofList clause⟩ else .ok (tokens body)

def readMembership (clause key rest : List Char) : Except Fault Requirement :=
  match readSetOperator rest with
  | none => .error ⟨.unknownOperator, String.ofList clause⟩
  | some (operator, set) => do
    let key ← readKey clause key
    let values ← readSet clause set
    return operator key values

def readTrimmed (clause : List Char) : Except Fault Requirement :=
  match behind? ['!'] clause with
  | some key => (readKey clause key).map absent
  | none =>
  match cutAt? ['!', '='] clause with
  | some (key, value) => (readKey clause key).map (differs · (String.ofList (trim value)))
  | none =>
  match (cutAt? ['=', '='] clause).or (cutAt? ['='] clause) with
  | some (key, value) => (readKey clause key).map (equals · (String.ofList (trim value)))
  | none =>
  match trimStart (afterFirstWord clause) with
  | [] => (readKey clause clause).map present
  | rest => readMembership clause (firstWord clause) rest

def read (clause : List Char) : Except Fault Requirement := readTrimmed (trim clause)

end Requirement

/-! Selectors -/

structure Selector where
  requirements : List Requirement
  deriving DecidableEq

namespace Selector

def selects (s : Selector) (labels : Labels) : Bool := s.requirements.all (·.holds labels)

def selectsAll (s : Selector) : Bool := s.requirements.isEmpty

def ofRequirement (r : Requirement) : Selector := ⟨[r]⟩

def ofPairs (pairs : List (String × String)) : Selector :=
  ⟨pairs.map fun (key, value) => .equals key value⟩

def text (s : Selector) : String := ",".intercalate (s.requirements.map (·.text))

def read (text : String) : Except Fault Selector := do
  let parts ← clauses text.toList
  -- the first clause that is no requirement decides the fault
  let requirements ← parts.mapM Requirement.read
  return ⟨requirements⟩

end Selector
end DuckCensus
