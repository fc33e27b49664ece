import DuckCensus.Json
import DuckCensus.Selector

/-! Selectors as structured values. A requirement is an object with its operator as the one key. -/
namespace DuckCensus
open Std Json

def Json.textSet? (j : Json) : Option (ExtTreeSet String) := (j.list? text?).map (.ofList ·)

def Json.ofTextSet (xs : ExtTreeSet String) : Json := ofList text xs.toList

namespace Requirement

def ofJson? : Json → Option Requirement
  | object [(operator, body)] =>
    match operator with
    | "In" => (body.pair? text? textSet?).map fun (key, values) => isIn key values
    | "NotIn" => (body.pair? text? textSet?).map fun (key, values) => notIn key values
    | "Equal" => (body.pair? text? text?).map fun (key, value) => equals key value
    | "NotEqual" => (body.pair? text? text?).map fun (key, value) => differs key value
    | "Exists" => body.text?.map present
    | "DoesNotExist" => body.text?.map absent
    | _ => none
  | _ => none

def toJson : Requirement → Json
  | isIn key values => object [("In", array [.text key, ofTextSet values])]
  | notIn key values => object [("NotIn", array [.text key, ofTextSet values])]
  | equals key value => object [("Equal", array [.text key, .text value])]
  | differs key value => object [("NotEqual", array [.text key, .text value])]
  | present key => object [("Exists", .text key)]
  | absent key => object [("DoesNotExist", .text key)]

end Requirement

namespace Selector

def ofJson? (j : Json) : Option Selector := (j.list? Requirement.ofJson?).map (⟨·⟩)

def toJson (s : Selector) : Json := ofList Requirement.toJson s.requirements

end Selector
end DuckCensus
