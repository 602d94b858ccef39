import GeoRouting.Dict
import GeoRouting.Dict.Lookup
import GeoRouting.Text.Case
import GeoRouting.Text.Blank
import GeoRouting.Text.Excerpt
import GeoRouting.Binary64.Scaling
import GeoRouting.Binary64.Layout
import GeoRouting.Json.Value
import GeoRouting.Json.Printer
import GeoRouting.Json.Literal
import GeoRouting.Json.Token
import GeoRouting.Json.Decoder
import GeoRouting.Record.Json
import GeoRouting.Record.Draft
import GeoRouting.Credentials
import GeoRouting.Act
import GeoRouting.Territory.Resolver
import GeoRouting.Row.Json
import GeoRouting.Row.Grouping
import GeoRouting.RecordStore.Reader
import GeoRouting.Pool.Json
import GeoRouting.Pool.Store
import GeoRouting.Pool.Listing
import GeoRouting.Pool.Reader
import GeoRouting.Service.Store
import GeoRouting.Service.Reader
import GeoRouting.Provider
import GeoRouting.Proofs.Steady
import GeoRouting.Proofs.ItemSequence
import GeoRouting.Proofs.Resolution
import GeoRouting.Proofs.Row.RunItem
import GeoRouting.Proofs.Row.Drain
import GeoRouting.Proofs.Row.Sorting
import GeoRouting.Proofs.Row.Accounting
import GeoRouting.Proofs.Partition
import GeoRouting.Proofs.Pool.ListingItems
import GeoRouting.Proofs.Pool.PoolSum
import GeoRouting.Proofs.Pool.StoredRows
import GeoRouting.Proofs.Row.Joint
import GeoRouting.Proofs.Pool.Target
import GeoRouting.Proofs.Pool.TypeListing
import GeoRouting.Proofs.Pool.Conservation
import GeoRouting.Proofs.Service.ListingItems
import GeoRouting.Proofs.Service.Origins
import GeoRouting.Proofs.Row.Selecting
import GeoRouting.Proofs.Service.Selecting
import GeoRouting.Proofs.Service.Conservation
import GeoRouting.Proofs.Rdata.Layout
import GeoRouting.Proofs.Reader.Ending
import GeoRouting.Proofs.Reader.CanonicalForm
import GeoRouting.Proofs.Pool.SourceIp
import GeoRouting.Proofs.Row.Keys
import GeoRouting.Proofs.Pool.Identity
import GeoRouting.Proofs.Watching
import GeoRouting.Proofs.Resolvers
import GeoRouting.Proofs.Credentials.Acceptance
import GeoRouting.Proofs.Credentials.Secrecy
import GeoRouting.Proofs.Pool.Course
import GeoRouting.Proofs.Pool.AfterError
import GeoRouting.Proofs.Faults
import GeoRouting.Proofs.Pool.Faults
import GeoRouting.Proofs.Pool.Laziness
import GeoRouting.Proofs.Pool.Interleaving
import GeoRouting.Proofs.RecordStore.Listing
import GeoRouting.Proofs.RecordStore.Target
import GeoRouting.Proofs.RecordStore.Regions
import GeoRouting.Proofs.Pool.OpenListings
import GeoRouting.Proofs.Json.RoundTrip
import GeoRouting.Proofs.Histories
import GeoRouting.Proofs.Pool.TargetIsolation
import GeoRouting.Proofs.Pool.TypeIsolation
import GeoRouting.Proofs.Row.Laziness
import GeoRouting.Proofs.Rdata.Numeral
import GeoRouting.Proofs.Rdata.Conversion
import GeoRouting.Proofs.Record.LastParts
import GeoRouting.Proofs.Arguments
import GeoRouting.Proofs.ZoneCheck
import GeoRouting.Proofs.Refusals
import GeoRouting.Proofs.Text.Spelling
import GeoRouting.Proofs.Spelling
import GeoRouting.Proofs.Text.Excerpt
import GeoRouting.Proofs.Row.Ungrouped
import GeoRouting.Proofs.Excerpts
