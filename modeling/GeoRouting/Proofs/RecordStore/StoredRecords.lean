import GeoRouting.Dict.Lookup
import GeoRouting.RecordStore.Basic

/-!
# What a record store holds

A zone holds the record sets that were put into it once it was there, in the order in which they
were put. Puts that come before the zone are refused, and adding it once more changes nothing.
-/

namespace GeoRouting.RecordStore

/-- The record sets that changes put into a zone, refused or not. -/
def putInto (zone : String) (changes : List Change) : List RoutedRecordSet :=
  changes.filterMap fun
    | .put z record => if z = zone then some record else none
    | .addZone _ => none

/-- The record sets that a history puts into a zone from the time on when it is there. -/
def accepted (zone : String) (changes : List Change) : List RoutedRecordSet :=
  putInto zone (changes.dropWhile (· ≠ .addZone zone))

theorem putInto_cons (zone : String) (c : Change) (changes : List Change) :
    putInto zone (c :: changes) = putInto zone [c] ++ putInto zone changes :=
  List.filterMap_append (l := [c])

/-- A zone that is there takes what is put into it; another one has to be added first. -/
theorem get?_zones_after (s : RecordStore) (c : Change) (zone : String) :
    (s.after c).zones.get? zone =
      match s.zones.get? zone with
      | some records => some (records ++ putInto zone [c])
      | none => if c = .addZone zone then some [] else none := by
  cases c with
  | addZone z =>
    have hput : putInto zone [.addZone z] = [] := rfl
    simp only [after_addZone, Dict.contains_eq_isSome, hput, List.append_nil,
      Change.addZone.injEq]
    by_cases hz : z = zone
    · subst hz
      cases h : s.zones.get? z <;> simp [h]
    · cases h : s.zones.get? zone <;> cases s.zones.get? z <;> simp [h, hz]
  | put z record =>
    have hput : putInto zone [.put z record] = if z = zone then [record] else [] := by
      by_cases hz : z = zone <;> simp [putInto, hz]
    cases h : s.zones.get? z with
    | none =>
      rw [after, perform, run_put_of_absent h]
      by_cases hz : z = zone
      · subst hz
        simp [h]
      · cases s.zones.get? zone <;> simp [hput, hz]
    | some records =>
      rw [after, perform, run_put_of_present h]
      by_cases hz : z = zone
      · subst hz
        simp [h, hput]
      · cases h' : s.zones.get? zone <;> simp [h', hput, hz]

theorem get?_zones_of_present {s : RecordStore} {zone : String} {records : List RoutedRecordSet}
    (h : s.zones.get? zone = some records) (changes : List Change) :
    (changes.foldl after s).zones.get? zone = some (records ++ putInto zone changes) := by
  induction changes generalizing s records with
  | nil => simpa [putInto] using h
  | cons c changes ih =>
    have hafter : (s.after c).zones.get? zone = some (records ++ putInto zone [c]) := by
      rw [get?_zones_after, h]
    rw [List.foldl_cons, ih hafter, putInto_cons zone c changes, List.append_assoc]

theorem get?_zones_of_absent {s : RecordStore} {zone : String} (h : s.zones.get? zone = none)
    (changes : List Change) :
    (changes.foldl after s).zones.get? zone =
      if .addZone zone ∈ changes then some (accepted zone changes) else none := by
  induction changes generalizing s with
  | nil => simpa using h
  | cons c changes ih =>
    have hafter := get?_zones_after s c zone
    rw [h] at hafter
    by_cases hc : c = .addZone zone
    · subst hc
      rw [List.foldl_cons, get?_zones_of_present (hafter.trans (if_pos rfl))]
      simp [accepted, putInto]
    · rw [List.foldl_cons, ih (hafter.trans (if_neg hc))]
      simp [accepted, hc, Ne.symm hc]

/-- After a history a zone is there when it was added, with the record sets that it accepted. -/
theorem get?_zones_ofHistory (changes : List Change) (zone : String) :
    (ofHistory changes).zones.get? zone =
      if .addZone zone ∈ changes then some (accepted zone changes) else none :=
  get?_zones_of_absent (Dict.get?_empty zone) changes

theorem containsZone_iff {s : RecordStore} {zone : String} :
    s.containsZone zone = true ↔ ∃ records, s.zones.get? zone = some records := by
  rw [containsZone, Dict.contains_eq_isSome, Option.isSome_iff_exists]

theorem get?_of_containsZone {changes : List Change} {zone : String}
    (h : (ofHistory changes).containsZone zone = true) :
    (ofHistory changes).zones.get? zone = some (accepted zone changes) := by
  obtain ⟨records, hrecords⟩ := containsZone_iff.mp h
  rw [get?_zones_ofHistory] at hrecords ⊢
  split at hrecords
  · rename_i hadded
    exact if_pos hadded
  · cases hrecords

end GeoRouting.RecordStore
