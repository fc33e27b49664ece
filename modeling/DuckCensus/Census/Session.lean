import DuckCensus.Catalog
import DuckCensus.Definition
import DuckCensus.Grants

/-! A census of ducks. Definitions and references each yield sightings, whatever was seen before;
the census collects them, and what they come to is worked out when it is asked for. A census can be
saved under a name and continued from there. -/
namespace DuckCensus
open Std

structure Sighting where
  duckVersion : String
  duck : Duck
  deriving DecidableEq

-- how many definitions yielded nothing although they serve a version
structure Tally where
  refused : Nat := 0
  unmatched : Nat := 0
  deriving DecidableEq

structure Yield where
  declared : List String := []
  sightings : List Sighting := []
  tally : Tally := {}

structure Settings where
  catalog : Option Catalog := none
  filters : Option Filters := none
  defaultVersions : List String := []
  grants : Grants := {}

namespace Settings

def withoutRepeats (s : Settings) : Settings :=
  { s with defaultVersions := s.defaultVersions.eraseDups }

-- The sightings in listed duck versions. A listing declares its duck versions even if it lists none
-- of the served definition versions.
def yieldListed (versions : ExtTreeMap String (ExtTreeSet String)) (ducks : List Duck) : Yield :=
  let sightings := ducks.flatMap fun duck =>
    (versions.toList.filter (duck.version ∈ ·.2)).map fun entry => ⟨entry.1, duck⟩
  { declared := versions.keys, sightings, tally := ⟨0, if sightings = [] then 1 else 0⟩ }

def yieldDefinition (s : Settings) (d : Definition) : Yield :=
  -- a definition that serves no version is not counted
  if d.served = [] then {}
  else match Route.choose s.filters d.labels d.annotations with
    | .everywhere =>
      { sightings := d.served.flatMap fun duck => s.defaultVersions.map (⟨·, duck⟩) }
    | .refused => { tally := ⟨1, 0⟩ }
    | .listed versions => yieldListed versions d.served

def kindOf (s : Settings) (r : Reference) : Except Failure String :=
  if r.kind ≠ "" then .ok r.kind
  else match s.catalog with
    | some catalog => catalog.kindFor r.target r.resource
    | none => .error (.kindNotFound r.resource r.target)

def resolve (s : Settings) (r : Reference) : Except Failure Duck := do
  let kind ← s.kindOf r
  -- with a catalog the kind must be in it
  if s.catalog.all (·.hasKind r.target kind) then
    return { apiVersion := r.target, kind, scope := r.scope.getD .assumed }
  else throw (.unknownResource kind r.target)

def yieldReference (s : Settings) (duckVersion : String) (r : Reference) : Except Failure Yield :=
  (s.resolve r).map fun duck =>
    { declared := [duckVersion], sightings := [⟨duckVersion, duck⟩] }

end Settings

namespace Duck

def notAfter (a b : Duck) : Bool := (compare a.toIdentity b.toIdentity).isLE

def same (a b : Duck) : Bool := a.toIdentity = b.toIdentity

/-- The ducks seen in one duck version, sorted so that the same stand together in the order in which
they were seen, and of the same the first, marked. -/
def settle (g : Grants) (ducks : List Duck) : List Duck :=
  ((ducks.mergeSort notAfter).eraseRepsBy same).map g.mark

end Duck

structure Census where
  settings : Settings
  declared : ExtTreeSet String
  /-- Oldest first. -/
  sightings : List Sighting := []
  tally : Tally := {}

namespace Census

def start (s : Settings) : Census :=
  { settings := s.withoutRepeats, declared := .ofList s.defaultVersions }

def add (c : Census) (y : Yield) : Census :=
  { c with
    declared := c.declared.insertMany y.declared
    sightings := c.sightings ++ y.sightings
    tally := ⟨c.tally.refused + y.tally.refused, c.tally.unmatched + y.tally.unmatched⟩ }

def addDefinition (c : Census) (d : Definition) : Census := c.add (c.settings.yieldDefinition d)

def addDefinitions (c : Census) (ds : List Definition) : Census := ds.foldl addDefinition c

/-- The census after a reference was tried, whatever came of it, and what came of it. -/
def tryReference (c : Census) (duckVersion : String) (r : Reference) :
    Census × Except Failure Unit :=
  match c.settings.yieldReference duckVersion r with
  | .ok y => (c.add y, .ok ())
  | .error failure => (c, .error failure)

-- who gives up at the first failure has no use for the census after it
def addReference (c : Census) (duckVersion : String) (r : Reference) : Except Failure Census :=
  match c.tryReference duckVersion r with
  | (c', .ok ()) => .ok c'
  | (_, .error failure) => .error failure

def collected (sightings : List Sighting) : ExtTreeMap String (List Duck) :=
  sightings.foldl
    (fun m s => m.alter s.duckVersion fun ducks => some (ducks.getD [] ++ [s.duck])) ∅

def findings (c : Census) : Findings :=
  (collected c.sightings).map fun _ ducks => Duck.settle c.settings.grants ducks

def versions (c : Census) : List String := c.declared.toList

end Census

structure Session where
  current : Census
  saved : ExtTreeMap String Census := ∅

namespace Session

def save (s : Session) (name : String) : Session :=
  { s with saved := s.saved.insert name s.current }

def restore (s : Session) (name : String) : Option Session :=
  s.saved[name]?.map fun census => { s with current := census }

end Session
end DuckCensus
