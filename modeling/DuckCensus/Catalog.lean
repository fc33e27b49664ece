import DuckCensus.Failure
import Std.Data.ExtTreeMap.Lemmas

/-! The resources that a cluster serves at each API version, and the kinds behind them. -/
namespace DuckCensus
open Std

structure ServedResource where
  kind : String
  name : String
  deriving DecidableEq

namespace ServedResource

-- a part of another resource, such as its status
def isPart (r : ServedResource) : Bool := '/' ∈ r.name.toList

end ServedResource

structure Listing where
  groupVersion : String
  resources : List ServedResource
  deriving DecidableEq

/-- Both directions of the names at one API version. They are inverse to each other only where no
kind and no resource is listed twice. -/
structure NameTable where
  resources : ExtTreeMap String String := ∅
  kinds : ExtTreeMap String String := ∅
  deriving DecidableEq

def NameTable.add (n : NameTable) (r : ServedResource) : NameTable :=
  if r.isPart then n
  else { resources := n.resources.insert r.kind r.name, kinds := n.kinds.insert r.name r.kind }

def NameTable.ofResources (rs : List ServedResource) : NameTable := rs.foldl NameTable.add {}

structure Catalog where
  tables : ExtTreeMap String NameTable := ∅
  deriving DecidableEq

namespace Catalog

-- a later listing of the same API version replaces an earlier one
def add (c : Catalog) (l : Listing) : Catalog :=
  ⟨c.tables.insert l.groupVersion (.ofResources l.resources)⟩

def ofListings (ls : List Listing) : Catalog := ls.foldl add {}

def size (c : Catalog) : Nat := c.tables.size

def isEmpty (c : Catalog) : Bool := c.tables.isEmpty

def kind? (c : Catalog) (groupVersion resource : String) : Option String :=
  c.tables[groupVersion]?.bind (·.kinds[resource]?)

def resource? (c : Catalog) (groupVersion kind : String) : Option String :=
  c.tables[groupVersion]?.bind (·.resources[kind]?)

def hasKind (c : Catalog) (groupVersion kind : String) : Bool :=
  c.tables[groupVersion]?.any (kind ∈ ·.resources)

def hasResource (c : Catalog) (groupVersion resource : String) : Bool :=
  c.tables[groupVersion]?.any (resource ∈ ·.kinds)

def kindFor (c : Catalog) (groupVersion resource : String) : Except Failure String :=
  match c.kind? groupVersion resource with
  | some kind => .ok kind
  | none => .error (.kindNotFound resource groupVersion)

def resourceFor (c : Catalog) (groupVersion kind : String) : Except Failure String :=
  match c.resource? groupVersion kind with
  | some resource => .ok resource
  | none => .error (.resourceNotFound kind groupVersion)

end Catalog
end DuckCensus
