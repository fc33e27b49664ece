import DuckCensus.Census.Session
import DuckCensus.Json.Declaration
import DuckCensus.Json.Selector
import DuckCensus.Proofs.Catalog.Directions
import DuckCensus.Proofs.Census.References
import DuckCensus.Proofs.Census.Reordering
import DuckCensus.Proofs.Census.Runs
import DuckCensus.Proofs.Census.Spellings
import DuckCensus.Proofs.Census.Tallies
import DuckCensus.Proofs.Grants
import DuckCensus.Proofs.Grants.NormalForm
import DuckCensus.Proofs.GroupVersion
import DuckCensus.Proofs.Json.Objects
import DuckCensus.Proofs.Registry
import DuckCensus.Proofs.Selector.Agreement
import DuckCensus.Proofs.Selector.Offsets
import DuckCensus.Proofs.Selector.RoundTrip
import DuckCensus.Proofs.Survey.Catalogs
import DuckCensus.Proofs.Survey.Faults
import DuckCensus.Proofs.Survey.Inert
import DuckCensus.Proofs.Survey.Policy
import DuckCensus.Proofs.Survey.Reordering
import DuckCensus.Proofs.Survey.Selection
import DuckCensus.Proofs.Watch
