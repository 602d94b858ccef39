import GeoRouting.Row.Grouping
import GeoRouting.Selection

/-!
# Reading the record sets of a zone

A reader gives access to the routed record sets of one zone. Listings are pulled item by
item: the backend is asked for what the next item needs and no more.
-/

namespace GeoRouting

/-- Read access to one zone, over a backend with states `σ` and with listings `ℓ`. -/
structure Reader (σ ℓ : Type) where
  zone : String
  /-- The record types that can be routed, in order. -/
  types : List String
  /-- Regions with their territories. -/
  regions : Act σ (Dict (List String))
  /-- Starts a listing. -/
  list : Selection → Query σ ℓ
  /-- Pulls the next item; `none` past the end. -/
  next : ℓ → Act σ (Option Item × ℓ)
  /-- Pulls up to the end or the first error. -/
  drain : ℓ → Act σ (List Item)
  /-- The record set of a target, if there is one. -/
  get : Target → Query σ (Option RoutedRecordSet)

namespace Reader
variable {σ ℓ : Type}

/-- Pulls a number of times. -/
def pull (r : Reader σ ℓ) (listing : ℓ) : Nat → Act σ (List (Option Item) × ℓ)
  | 0 => return ([], listing)
  | n + 1 => do
    let (item, listing) ← r.next listing
    let (items, listing) ← pull r listing n
    return (item :: items, listing)

end Reader

end GeoRouting
