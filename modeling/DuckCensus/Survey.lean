import DuckCensus.Census.Session
import DuckCensus.Declaration
import DuckCensus.Selector

/-! The survey that a declared duck type asks for, and the status that reports it. -/
namespace DuckCensus
open Std
variable {α : Type}

def firstOfEachName (name : α → String) (taken : ExtTreeSet String) : List α → List α
  | [] => []
  | x :: xs =>
    if name x ∈ taken then firstOfEachName name taken xs
    else x :: firstOfEachName name (taken.insert (name x)) xs

namespace Spec

def readSelectors (s : Spec) : Except Failure (List Selector) :=
  (s.selectors.mapM Selector.read).mapError .invalidSelector

def pickBy (s : Spec) (definition : α → Definition) (items : List α) : Except Failure (List α) :=
  s.readSelectors.map fun selectors =>
    firstOfEachName (fun x => (definition x).name) ∅
      (items.filter fun x => selectors.any (·.selects (definition x).labels))

def pick (s : Spec) (ds : List Definition) : Except Failure (List Definition) := s.pickBy id ds

def references (s : Spec) : List (String × Reference) :=
  s.versions.flatMap fun v => v.refs.map (v.name, ·)

def settings (s : Spec) (catalog : Option Catalog) (role : Option Role) : Settings :=
  { catalog, filters := some s.filters, defaultVersions := s.versions.map (·.name),
    grants := .ofRole role }

def survey (s : Spec) (ds : List Definition) (catalog : Option Catalog) (role : Option Role) :
    Except Failure Findings := do
  let picked ← s.pick ds
  -- definitions are added before references, and the first failure ends the survey
  let census := (Census.start (s.settings catalog role)).addDefinitions picked
  let census ← s.references.foldlM (fun c (v, r) => c.addReference v r) census
  return census.findings

end Spec

def Findings.kindCount (f : Findings) : Nat :=
  ((f.values.flatten.map fun duck => (duck.group, duck.kind)).eraseDups).length

def Failure.reason : Failure → String
  | invalidSelector _ => "InvalidSelector"
  | _ => "ResourceRefNotKnown"

def Declaration.observe (d : Declaration) (ds : List Definition) (catalog : Option Catalog)
    (role : Option Role) : Status :=
  match d.spec.survey ds catalog role with
  | .ok ducks =>
    { observedGeneration := d.metadata.generation, conditions := [.ready "DucksFound"], ducks,
      duckCount := ducks.kindCount }
  | .error failure =>
    { observedGeneration := d.metadata.generation,
      conditions := [.notReady failure.reason failure.message] }

end DuckCensus
