import GeoRouting.Proofs.Pool.ListingItems
import GeoRouting.Proofs.Row.Sorting

/-!
# What a store of pools answers with

The calls about a zone that is there are answered with its pools and rows.
-/

namespace GeoRouting

namespace PoolZone

theorem filter_rowsWhere (z : PoolZone) (p : Bucket → Row → Bool) (q : Row → Bool) :
    (z.rowsWhere p).filter q = z.rowsWhere fun b r => q r && p b r := by
  unfold rowsWhere
  rw [List.filter_map, List.filter_filter]
  rfl

/-- The rows of a name in one bucket. -/
def rowsOf (z : PoolZone) (name : String) (bucket : Bucket) : List Row :=
  z.rowsWhere fun b r => b == bucket && DomainName.same r.name name

theorem mem_rowsOf {z : PoolZone} {name : String} {b : Bucket} {row : Row} :
    row ∈ z.rowsOf name b ↔ (b, row) ∈ z.rows ∧ DomainName.same row.name name = true := by
  unfold rowsOf rowsWhere
  simp only [List.mem_map, List.mem_filter, Bool.and_eq_true, beq_iff_eq]
  constructor
  · rintro ⟨⟨c, r⟩, ⟨hmem, rfl, hname⟩, rfl⟩
    exact ⟨hmem, hname⟩
  · rintro ⟨hmem, hname⟩
    exact ⟨(b, row), ⟨hmem, rfl, hname⟩, rfl⟩

/-- The rows of a name for one type and group, in the order of the backend. -/
def rowsFor (z : PoolZone) (name type group : String) : List Row :=
  (Bucket.holding type).flatMap fun b => (z.rowsOf name b).filter (Row.belongs type group)

theorem mem_rowsFor {z : PoolZone} {name type group : String} {row : Row} :
    row ∈ z.rowsFor name type group ↔
      (∃ b ∈ Bucket.holding type, row ∈ z.rowsOf name b) ∧ row.belongs type group = true := by
  simp only [rowsFor, List.mem_flatMap, List.mem_filter]
  constructor
  · rintro ⟨b, hb, hrow, hbelongs⟩
    exact ⟨⟨b, hb, hrow⟩, hbelongs⟩
  · rintro ⟨⟨b, hb, hrow⟩, hbelongs⟩
    exact ⟨b, hb, hrow, hbelongs⟩

end PoolZone

namespace PoolStore
variable {s : PoolStore} {zone : String} {z : PoolZone}

theorem reply_zoneExists (h : s.zone zone = .ok z) : s.reply (.zoneExists zone) = .ok true := by
  unfold PoolStore.zone at h
  split at h
  · rename_i hz
    rw [reply, Dict.contains_eq_isSome, hz]
    rfl
  · cases h

theorem reply_rows (h : s.zone zone = .ok z) (name : String) (b : Bucket) :
    s.reply (.rows zone name b) = .ok (z.rowsOf name b) := by
  rw [reply, h]
  rfl

theorem reply_groupRows (h : s.zone zone = .ok z) (name group : String) (b : Bucket) :
    s.reply (.groupRows ⟨zone, name, b.code, group⟩) =
      .ok ((z.rowsOf name b).filter fun r => r.groupName? == some group) := by
  have hcode : ∀ c : Bucket, (c.code == b.code) = (c == b) := by
    intro c
    rw [Bool.eq_iff_iff, beq_iff_eq, beq_iff_eq]
    exact ⟨Bucket.code_injective, fun hc => hc ▸ rfl⟩
  rw [reply, h, PoolZone.rowsOf, PoolZone.filter_rowsWhere]
  simp only [hcode, Except.map, Bool.and_comm]

theorem reply_pools (h : s.zone zone = .ok z) : s.reply (.pools zone) = .ok z.pools := by
  rw [reply, h]
  rfl

theorem bucketItems_of_zone (h : s.zone zone = .ok z) (regions : RegionTable)
    (b : String × Bucket) :
    BucketCursor.bucketItems s.reply zone regions b =
      Item.upToError (Run.items Pool.provider (Pool.territories s.reply regions)
        (Row.sort (z.rowsOf b.1 b.2))) := by
  rw [BucketCursor.bucketItems, reply_rows h]

end PoolStore

/-! ## Queries to a store -/

namespace Pool

/-- Groups resolve alike in stores with the same territories. -/
theorem territories_congr {s t : PoolStore} (h : s.territories = t.territories)
    (regions : RegionTable) : territories s.reply regions = territories t.reply regions := by
  funext id
  rw [territories, territories, TerritoryCache.resolved, TerritoryCache.resolved, PoolStore.reply,
    PoolStore.reply, h]

theorem answer_requireZone (s : PoolStore) (zone : String) :
    ((requireZone PoolStore.source zone).run.run s).answer = (s.zone zone).map fun _ => () := by
  have hfound : (PoolStore.source (.zoneExists zone) s).1 = .ok (s.zones.get? zone).isSome :=
    congrArg Except.ok (Dict.contains_eq_isSome _ _)
  rw [run_requireZone_eq, hfound, PoolStore.zone]
  cases s.zones.get? zone with
  | none => rfl
  | some z => rfl

/-- What a selection from a store gives. -/
theorem items_of_store (s : PoolStore) (zone : String) (regions : RegionTable)
    (selection : Selection) :
    ((items PoolStore.source zone regions selection).run.run s).answer =
      (selection.check provider).bind fun checked => (s.zone zone).bind fun _ =>
        (planned s.reply zone regions checked).map (PoolListing.remaining s.reply) := by
  cases hc : selection.check provider with
  | error e =>
    have hl : ((list PoolStore.source zone regions selection).run.run s).answer = .error e := by
      rw [list, hc, Query.run_bind_error rfl]
    rw [items, Query.run_bind_error hl]
    rfl
  | ok checked =>
    cases hz : s.zone zone with
    | error e =>
      have hrequired : ((requireZone PoolStore.source zone).run.run s).answer = .error e := by
        rw [answer_requireZone, hz]
        rfl
      have hl : ((list PoolStore.source zone regions selection).run.run s).answer = .error e := by
        rw [list, hc, Query.run_bind_ok rfl, Query.run_ofExcept]
        dsimp only
        rw [Query.run_bind_error hrequired]
      rw [items, Query.run_bind_error hl]
      rfl
    | ok z =>
      exact items_steady (PoolStore.source_steady s) (PoolStore.reply_zoneExists hz) hc

end Pool

theorem Pool.items_all_of_zone {s : PoolStore} {zone : String} {z : PoolZone}
    (h : s.zone zone = .ok z) (regions : RegionTable) :
    ((items PoolStore.source zone regions .all).run.run s).answer =
      .ok (Item.upToError ((geoBuckets z.pools).flatMap fun b =>
        BucketCursor.bucketItems s.reply zone regions b)) := by
  rw [items_steady (PoolStore.source_steady s) (PoolStore.reply_zoneExists h)
    Selection.check_all, planned, PoolStore.reply_pools h]
  simp only [Except.map, PoolListing.remaining, PoolListing.upcoming, BucketCursor.remaining,
    BucketCursor.filter_keeps_none, List.nil_append, Bool.false_eq_true, if_false]

/-! ## Rows behind record sets -/

namespace Pool
variable {s : PoolStore} {zone : String} {z : PoolZone} {regions : RegionTable}

theorem exists_covers_of_bucketItems (hz : s.zone zone = .ok z) {b : String × Bucket}
    {r : RoutedRecordSet} (h : .ok r ∈ BucketCursor.bucketItems s.reply zone regions b) :
    ∃ row ∈ z.rowsOf b.1 b.2, r.Covers row := by
  rw [PoolStore.bucketItems_of_zone hz] at h
  obtain ⟨row, hrow, hcovers⟩ := Run.exists_covers_of_mem h
  exact ⟨row, (Row.sort_perm _).mem_iff.mp hrow, hcovers⟩

/-- A record set that is listed for a type has a row of the type in a bucket that can hold it. -/
theorem exists_covers_of_items_typed (hz : s.zone zone = .ok z) {name type : String}
    (hn : Text.isBlank name = false) (ht : Text.isBlank type = false) {listed : List Item}
    (h : ((items PoolStore.source zone regions (.typed name type)).run.run s).answer = .ok listed)
    {r : RoutedRecordSet} (hr : .ok r ∈ listed) :
    ∃ b ∈ Bucket.holding (Text.upper type), ∃ row ∈ z.rowsOf name b,
      row.type = Text.upper type ∧ r.Covers row := by
  rw [items_typed_steady (PoolStore.source_steady s) (PoolStore.reply_zoneExists hz) hn ht,
    Except.ok.injEq] at h
  rw [← h] at hr
  obtain ⟨b, hb, hr⟩ := List.mem_flatMap.mp ((Item.upToError_prefix _).subset hr)
  obtain ⟨bucket, hbucket, rfl⟩ := List.mem_map.mp hb
  obtain ⟨hr, hkeeps⟩ := List.mem_filter.mp hr
  obtain ⟨row, hrow, hcovers⟩ := exists_covers_of_bucketItems hz hr
  exact ⟨bucket, hbucket, row, hrow, hcovers.type.symm.trans (beq_iff_eq.mp hkeeps), hcovers⟩

end Pool

end GeoRouting
