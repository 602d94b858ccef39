import GeoRouting.Act
import GeoRouting.Record.Draft
import GeoRouting.Text.Excerpt

/-!
# Record sets in memory

Zones with their routed record sets, in the order they were put.
-/

namespace GeoRouting

structure RecordStore where
  zones : Dict (List RoutedRecordSet) := .empty
deriving DecidableEq, Repr

namespace RecordStore

def provider : String := "mock"

def containsZone (s : RecordStore) (zone : String) : Bool := s.zones.contains zone

/-- The record sets of a zone in the order they were put. -/
def records (s : RecordStore) (zone : String) : Except GeoError (List RoutedRecordSet) :=
  match s.zones.get? zone with
  | some records => .ok records
  | none => .error (.zoneNotFound provider zone)

/-- Adds a zone. One that is there already stays as it is. -/
def addZone (zone : String) : Query RecordStore Unit :=
  Query.modify fun s =>
    if s.zones.contains zone then s else { s with zones := s.zones.insert zone [] }

/-- Adds a record set to the end of a zone and logs an excerpt of it. -/
def put (zone : String) (record : RoutedRecordSet) : Query RecordStore Unit := do
  let records ← Query.ofExcept ((← ExceptT.lift Act.get).records zone)
  Query.say .debug s!"[{provider}] put {zone} {Text.excerpt record.text}"
  Query.modify fun s => { s with zones := s.zones.insert zone (records ++ [record]) }

inductive Change where
  | addZone (zone : String)
  | put (zone : String) (record : RoutedRecordSet)
deriving DecidableEq, Repr

/-- Changes the store. -/
def perform : Change → Query RecordStore Unit
  | .addZone zone => addZone zone
  | .put zone record => put zone record

/-- The error that a change is refused with, if it is. -/
def change (s : RecordStore) (c : Change) : Except GeoError Unit := ((perform c).run.run s).answer

/-- The store that a change leaves, refused or not. -/
def after (s : RecordStore) (c : Change) : RecordStore := ((perform c).run.run s).state

/-- The store after a history of changes. -/
def ofHistory (changes : List Change) : RecordStore := changes.foldl after {}

theorem after_addZone (s : RecordStore) (zone : String) :
    s.after (.addZone zone) =
      if s.zones.contains zone then s else { s with zones := s.zones.insert zone [] } := rfl

theorem run_put_of_present {s : RecordStore} {zone : String} {records : List RoutedRecordSet}
    (h : s.zones.get? zone = some records) (record : RoutedRecordSet) :
    (put zone record).run.run s =
      ⟨.ok (), { s with zones := s.zones.insert zone (records ++ [record]) },
        [⟨.debug, s!"[{provider}] put {zone} {Text.excerpt record.text}"⟩]⟩ := by
  have hrecords : s.records zone = .ok records := by rw [RecordStore.records, h]
  rw [put, Query.run_bind_ok rfl]
  simp only [Query.run_lift, Act.run_get, hrecords]
  rfl

theorem run_put_of_absent {s : RecordStore} {zone : String} (h : s.zones.get? zone = none)
    (record : RoutedRecordSet) :
    (put zone record).run.run s = ⟨.error (.zoneNotFound provider zone), s, []⟩ := by
  have hrecords : s.records zone = .error (.zoneNotFound provider zone) := by
    rw [RecordStore.records, h]
  rw [put, Query.run_bind_ok rfl]
  simp only [Query.run_lift, Act.run_get, hrecords]
  rfl

/-- The zone of the demonstration data. -/
def demoZone : String := "denominator.io."

/-- The record sets of the demonstration data. -/
def demoDrafts : List Draft :=
  let route (group : String) (territories : List String) : Dict Route :=
    .single Route.geoKind (.geo ⟨group, territories, false⟩)
  let text (key value : String) : List Rdata := [.single key (.text value)]
  let alazona := route "alazona" ["Alaska", "Arizona"]
  let columbador := route "columbador" ["Colombia", "Ecuador"]
  let antarctica :=
    route "antarctica" ["Bouvet Island", "French Southern Territories", "Antarctica"]
  [⟨"www2.geo.denominator.io.", "A", some 300, text "address" "192.0.2.1", alazona⟩,
    ⟨"www.geo.denominator.io.", "CNAME", some 300, text "cname" "a.denominator.io.", alazona⟩,
    ⟨"www.geo.denominator.io.", "CNAME", some 86400, text "cname" "b.denominator.io.",
      columbador⟩,
    ⟨"www.geo.denominator.io.", "CNAME", some 0, text "cname" "c.denominator.io.", antarctica⟩]

/-- Fills a store with the demonstration data. -/
def seed : Query RecordStore Unit := do
  let records ← Query.ofExcept (demoDrafts.mapM Draft.routed)
  addZone demoZone
  for record in records do put demoZone record

end RecordStore

end GeoRouting
