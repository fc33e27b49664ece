import DuckCensus.Catalog

/-! Catalogs stored under names, and handles, under names of their own, to catalogs that are live.
Handles cloned from one another show the same live catalog; a stored catalog changes only when
another is stored under its name. -/
namespace DuckCensus
open Std

structure Registry where
  catalogs : ExtTreeMap String Catalog := ∅
  /-- The place in `live` of the catalog that a handle shows. -/
  handles : ExtTreeMap String Nat := ∅
  live : List Catalog := []

namespace Registry

inductive Step where
  | store (name : String) (listings : List Listing)
  /-- A first handle over a copy of a stored catalog, or over an empty one. -/
  | share (handle : String) (source : Option String)
  | clone (handle source : String)
  | rebuild (handle : String) (listings : List Listing)
  | snapshot (name handle : String)

def storeCatalog (r : Registry) (name : String) (c : Catalog) : Registry :=
  { r with catalogs := r.catalogs.insert name c }

def shown? (r : Registry) (handle : String) : Option Catalog :=
  r.handles[handle]?.bind (r.live[·]?)

def shareCatalog (r : Registry) (handle : String) (c : Catalog) : Registry :=
  { r with handles := r.handles.insert handle r.live.length, live := r.live ++ [c] }

/-- A step that reads from a name or handle nobody has given has no outcome. -/
def step (r : Registry) : Step → Option Registry
  | .store name listings => some (r.storeCatalog name (.ofListings listings))
  | .share handle none => some (r.shareCatalog handle {})
  | .share handle (some source) => r.catalogs[source]?.map (r.shareCatalog handle)
  | .clone handle source =>
    r.handles[source]?.map fun place => { r with handles := r.handles.insert handle place }
  | .rebuild handle listings =>
    r.handles[handle]?.map fun place => { r with live := r.live.set place (.ofListings listings) }
  | .snapshot name handle => (r.shown? handle).map (r.storeCatalog name)

def run (r : Registry) (steps : List Step) : Option Registry := steps.foldlM step r

end Registry
end DuckCensus
