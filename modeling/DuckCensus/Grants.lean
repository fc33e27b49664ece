import DuckCensus.Duck
import DuckCensus.Text.Casing
import Std.Data.ExtTreeSet.Lemmas

/-! What an access policy lets its holder read: resources that some rule lets him get, watch and
list. Groups and resources may be wildcards. -/
namespace DuckCensus
open Std

structure PolicyRule where
  verbs : List String
  apiGroups : List String
  resources : List String
  deriving DecidableEq

structure Role where
  rules : List PolicyRule
  deriving DecidableEq

namespace PolicyRule

def grantsReading (r : PolicyRule) : Bool :=
  "*" ∈ r.verbs || ["get", "watch", "list"].all (· ∈ r.verbs)

end PolicyRule

structure Grants where
  keys : ExtTreeSet String := ∅
  deriving DecidableEq

namespace Grants

-- keys are compared without regard to case
def key (group resource : String) : String :=
  String.ofList (Text.lower (group ++ ":" ++ resource).toList)

def keysOf (r : PolicyRule) : List String :=
  r.apiGroups.flatMap fun group => r.resources.map (key group)

def ofRules (rules : List PolicyRule) : Grants :=
  ⟨.ofList ((rules.filter (·.grantsReading)).flatMap keysOf)⟩

def ofRole (role : Option Role) : Grants := ofRules (role.elim [] (·.rules))

-- the resource of a kind is taken to be the kind with an s behind it
def allows (g : Grants) (i : Identity) : Bool :=
  let resource := i.kind ++ "s"
  [key i.group resource, key "*" "*", key "*" resource, key i.group "*"].any (· ∈ g.keys)

def mark (g : Grants) (d : Duck) : Duck := { d with accessible := g.allows d.toIdentity }

end Grants
end DuckCensus
