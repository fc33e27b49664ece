import Std.Data.ExtTreeMap.Lemmas

/-! Ducks: the resource kinds that implement a duck type, and how a cluster names them. -/
namespace DuckCensus
open Std

-- the core group has the empty name
structure GroupVersion where
  group : String
  version : String
  deriving DecidableEq

namespace GroupVersion

def text (gv : GroupVersion) : String :=
  if gv.group = "" then gv.version else gv.group ++ "/" ++ gv.version

-- the last slash separates the two, and without a slash all is version
def readReversed (cs : List Char) : GroupVersion :=
  match cs.dropWhile (· ≠ '/') with
  | [] => ⟨"", String.ofList cs.reverse⟩
  | _ :: group => ⟨String.ofList group.reverse, String.ofList (cs.takeWhile (· ≠ '/')).reverse⟩

def read (text : String) : GroupVersion := readReversed text.toList.reverse

end GroupVersion

inductive Scope where
  | cluster
  | namespaced
  deriving DecidableEq

namespace Scope

def ofText (text : String) : Scope := if text = "Cluster" then cluster else namespaced

def assumed : Scope := namespaced

def rank : Scope → Nat
  | cluster => 0
  | namespaced => 1

def sorted (scopes : List Scope) : List Scope := scopes.mergeSort fun a b => a.rank ≤ b.rank

end Scope

structure Identity where
  apiVersion : String
  kind : String
  deriving DecidableEq

instance : Ord Identity where
  compare := compareLex (compareOn (·.apiVersion)) (compareOn (·.kind))

instance : TransOrd Identity :=
  inferInstanceAs (TransCmp (compareLex (compareOn Identity.apiVersion) (compareOn Identity.kind)))

instance : LawfulEqOrd Identity where
  eq_of_compare {a b} h := by
    have h : (compare a.apiVersion b.apiVersion).then (compare a.kind b.kind) = .eq := h
    rw [Ordering.then_eq_eq] at h
    cases a
    cases b
    simp_all

structure Duck extends Identity where
  scope : Scope
  /-- Does the access policy grant reading it? -/
  accessible : Bool := false
  deriving DecidableEq

abbrev Findings := ExtTreeMap String (List Duck)

namespace Identity

def groupVersion (i : Identity) : GroupVersion := .read i.apiVersion

def group (i : Identity) : String := i.groupVersion.group

def version (i : Identity) : String := i.groupVersion.version

end Identity

def Duck.ofGroup (group version kind : String) (scope : Scope) : Duck :=
  { apiVersion := (GroupVersion.mk group version).text, kind, scope }

/-- A pointer to a resource kind: an API version, in one text or in two, and a kind or the resource
that serves it. What is empty is not said. -/
structure Reference where
  group : String := ""
  version : String := ""
  apiVersion : String := ""
  resource : String := ""
  kind : String := ""
  scope : Option Scope := none
  deriving DecidableEq

-- the API version in one text has precedence
def Reference.target (r : Reference) : String :=
  if r.apiVersion = "" then (GroupVersion.mk r.group r.version).text else r.apiVersion

end DuckCensus
