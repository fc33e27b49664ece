import DuckCensus.Definition
import DuckCensus.Text.Casing

/-! Declared duck types: what they ask for, what was last found, and the conditions by which they
report on themselves. -/
namespace DuckCensus
open Std

structure Condition where
  type : String
  status : String
  reason : String := ""
  message : String := ""
  deriving DecidableEq

namespace Condition

def readiness : String := "Ready"

def holding : String := "True"

def failing : String := "False"

def ready (reason : String) : Condition := ⟨readiness, holding, reason, ""⟩

def notReady (reason message : String) : Condition := ⟨readiness, failing, reason, message⟩

end Condition

structure DuckNames where
  name : String
  plural : String
  singular : String := ""
  deriving DecidableEq

structure DuckVersion where
  name : String
  refs : List Reference := []
  deriving DecidableEq

structure Spec where
  group : String
  names : DuckNames
  versions : List DuckVersion
  /-- Label selectors in text form. A definition is asked for by any one of them. -/
  selectors : List String := []
  deriving DecidableEq

structure Status where
  observedGeneration : Option Int64 := none
  conditions : List Condition := []
  ducks : Findings := ∅
  duckCount : Nat := 0
  deriving DecidableEq

structure Declaration where
  metadata : Metadata := {}
  spec : Spec
  status : Option Status := none
  deriving DecidableEq

namespace Spec

def singular (s : Spec) : String :=
  if s.names.singular = "" then String.ofList (Text.lower s.names.name.toList)
  else s.names.singular

def duckLabel (s : Spec) : String := s.group ++ "/" ++ s.singular

def versionStem (s : Spec) : String := s.names.plural ++ "." ++ s.group

def filters (s : Spec) : Filters := ⟨s.duckLabel, s.versionStem⟩

end Spec

namespace Status

def condition? (s : Status) (type : String) : Option Condition :=
  s.conditions.find? (·.type = type)

def isReady (s : Status) : Bool :=
  (s.condition? Condition.readiness).any (·.status = Condition.holding)

end Status
end DuckCensus
