import GeoRouting.Proofs.Pool.Ownership
import GeoRouting.Proofs.Pool.StoredRows
import GeoRouting.Proofs.Row.Accounting
import GeoRouting.Proofs.Row.Sorting

/-!
# Listing a zone loses no row

Every row of a zone that changes built has one pool, and listing the zone fetches the rows of
each pool that chooses by location bucket by bucket. So a listing without an error has the data of
the rows of these pools, each row once, with the groups that answer nothing beside it. The rows of
the other pools are in no record set.
-/

namespace GeoRouting

open DomainName (same)

namespace PoolZone

/-- The rows whose pool is of a kind. -/
def rowsIn (z : PoolZone) (kind : PoolKind) : List Row :=
  z.rowsWhere fun _ r => z.pools.any fun p => p.kind = kind && same p.name r.name

/-- The buckets of a name hold its rows, each row once. -/
theorem perm_rowsOf (z : PoolZone) (name : String) :
    (Bucket.all.flatMap fun b => z.rowsOf name b).Perm
      (z.rowsWhere fun _ r => same r.name name) := by
  have hperm : (Bucket.all.flatMap fun b =>
      (z.rows.filter fun e => same e.2.name name).filter fun e => e.1 == b).Perm
      (z.rows.filter fun e => same e.2.name name) := by
    apply flatMap_filter_perm
    rintro ⟨b, row⟩ -
    cases b <;> rfl
  have hmap := hperm.map Prod.snd
  rw [List.map_flatMap] at hmap
  simpa only [rowsOf, rowsWhere, List.filter_filter] using hmap

/-- The pools of a kind have the rows that are in them, each row once. -/
theorem Owned.perm_rowsIn {z : PoolZone} (h : z.Owned) (kind : PoolKind) :
    ((z.pools.filter fun p => p.kind = kind).flatMap fun p =>
      z.rowsWhere fun _ r => same r.name p.name).Perm (z.rowsIn kind) := by
  have hperm : ((z.pools.filter fun p => p.kind = kind).flatMap fun p =>
      (z.rows.filter fun e => z.pools.any fun q => q.kind = kind && same q.name e.2.name).filter
        fun e => same p.name e.2.name).Perm
      (z.rows.filter fun e => z.pools.any fun q => q.kind = kind && same q.name e.2.name) := by
    apply flatMap_filter_perm
    intro e he
    apply Pool.countP_same (h.apart.filter _)
    obtain ⟨p, hp, hkind⟩ := List.any_eq_true.mp (List.mem_filter.mp he).2
    rw [Bool.and_eq_true] at hkind
    exact ⟨p, List.mem_filter.mpr ⟨hp, hkind.1⟩, hkind.2⟩
  have hmap := hperm.map Prod.snd
  rw [List.map_flatMap] at hmap
  have hrows : ∀ p ∈ z.pools.filter fun p => p.kind = kind,
      (z.rowsWhere fun _ r => same r.name p.name) =
        ((z.rows.filter fun e => z.pools.any fun q => q.kind = kind && same q.name e.2.name).filter
          fun e => same p.name e.2.name).map Prod.snd := by
    intro p hp
    obtain ⟨hmem, hkind⟩ := List.mem_filter.mp hp
    rw [rowsWhere, List.filter_filter]
    congr 2
    funext e
    rw [DomainName.same_comm]
    cases hsame : same p.name e.2.name with
    | false => rfl
    | true =>
      symm
      rw [Bool.true_and, List.any_eq_true]
      exact ⟨p, hmem, by rw [hkind, hsame]; rfl⟩
  rw [List.flatMap_congr hrows]
  exact hmap

end PoolZone

namespace Pool

theorem flatMap_geoBuckets {α : Type} (pools : List Pool) (f : String × Bucket → List α) :
    (geoBuckets pools).flatMap f =
      (pools.filter fun p => p.kind = .geolocation).flatMap fun p =>
        Bucket.all.flatMap fun b => f (p.name, b) := by
  rw [geoBuckets, List.flatMap_assoc]
  simp only [bucketsOf, List.flatMap_map]

/-- The buckets of the pools that choose by location hold the rows of these pools. -/
theorem perm_rows_of_geoBuckets {z : PoolZone} (h : z.Owned) :
    ((geoBuckets z.pools).flatMap fun b => z.rowsOf b.1 b.2).Perm (z.rowsIn .geolocation) := by
  rw [flatMap_geoBuckets]
  have hbuckets := List.Perm.flatMap_left (z.pools.filter fun p => p.kind = .geolocation)
    fun p _ => z.perm_rowsOf p.name
  exact hbuckets.trans (h.perm_rowsIn .geolocation)

/-- A record set that a row of a pool is in has the name of no pool of another kind. -/
theorem same_eq_false_of_covers {z : PoolZone} (h : z.Owned) {row : Row}
    (hrow : row ∈ z.rowsIn .geolocation) {r : RoutedRecordSet} (hr : r.Covers row) {p : Pool}
    (hp : p ∈ z.pools) (hkind : p.kind = .sourceIp) : same p.name r.name = false := by
  obtain ⟨e, he, rfl⟩ := List.mem_map.mp hrow
  obtain ⟨q, hq, hown⟩ := List.any_eq_true.mp (List.mem_filter.mp he).2
  rw [Bool.and_eq_true, decide_eq_true_eq] at hown
  have hne : p ≠ q := by
    rintro rfl
    rw [hkind] at hown
    cases hown.1
  have hname : same q.name r.name = true := by
    rw [← hown.2, DomainName.same, DomainName.same, DomainName.key_of_lower hr.name]
  rw [Bool.eq_false_iff]
  intro hsame
  have hpq := DomainName.same_trans hsame (DomainName.same_symm hname)
  have : Std.Symm fun a b : Pool => same a.name b.name = false :=
    ⟨fun a b hab => (DomainName.same_comm b.name a.name).trans hab⟩
  rw [h.apart.forall hp hq hne] at hpq
  cases hpq

/-- In every zone that changes built the pools have different names and each row has one pool.
When a listing of the zone is without an error, its data is that of the rows whose pool chooses by
location, each row that answers counted once. Each of these rows is in a record set, each record
set has such a row, and none has the name of another pool. -/
theorem items_all_conserves_rows (changes : List PoolStore.Change) {zone : String} {z : PoolZone}
    (hz : (PoolStore.ofHistory changes).zone zone = .ok z) :
    (z.pools.Pairwise fun p q => same p.name q.name = false) ∧
      (∀ e ∈ z.rows, (z.pools.countP fun p => same p.name e.2.name) = 1) ∧
      ∀ (regions : RegionTable) (sets : List RoutedRecordSet),
        ((items PoolStore.source zone regions .all).run.run (.ofHistory changes)).answer =
          .ok (sets.map .ok) →
        ((sets.flatMap RoutedRecordSet.answers).map some).Perm
            (((z.rowsIn .geolocation).filter Row.answers).map (Row.answer? provider)) ∧
          (∀ row ∈ z.rowsIn .geolocation, ∃ r ∈ sets, r.Covers row) ∧
          (∀ r ∈ sets, ∃ row ∈ z.rowsIn .geolocation, r.Covers row) ∧
          ∀ p ∈ z.pools, p.kind = .sourceIp → ∀ r ∈ sets, same p.name r.name = false := by
  have ho := (PoolStore.owned_ofHistory changes).zone hz
  refine ⟨ho.apart, ?_, ?_⟩
  · intro e he
    exact countP_same ho.apart (PoolZone.hasPool_iff.mp (ho.pooled e he))
  intro regions sets h
  rw [items_all_of_zone hz, Except.ok.injEq, Item.upToError_eq_map_ok] at h
  obtain ⟨own, rfl, hown⟩ := Item.exists_own h
  have hitems : ∀ b ∈ geoBuckets z.pools,
      Run.items provider (territories (PoolStore.ofHistory changes).reply regions)
        (Row.sort (z.rowsOf b.1 b.2)) = (own b).map .ok := by
    intro b hb
    rw [← Item.upToError_eq_map_ok, ← PoolStore.bucketItems_of_zone hz]
    exact hown b hb
  have hperm := perm_rows_of_geoBuckets ho
  have hcovered : ∀ r ∈ (geoBuckets z.pools).flatMap own,
      ∃ row ∈ z.rowsIn .geolocation, r.Covers row := by
    intro r hr
    obtain ⟨b, hb, hr⟩ := List.mem_flatMap.mp hr
    obtain ⟨row, hrow, hcovers⟩ := (Run.covers_of_items (hitems b hb)).2 r hr
    refine ⟨row, ?_, hcovers⟩
    rw [← hperm.mem_iff]
    exact List.mem_flatMap.mpr ⟨b, hb, (Row.sort_perm _).mem_iff.mp hrow⟩
  refine ⟨?_, ?_, hcovered, ?_⟩
  · have hbucket : ∀ b ∈ geoBuckets z.pools,
        (((own b).flatMap RoutedRecordSet.answers).map some).Perm
          (((z.rowsOf b.1 b.2).filter Row.answers).map (Row.answer? provider)) := by
      intro b hb
      rw [Run.answers_of_items (hitems b hb)]
      exact ((Row.sort_perm _).filter _).map _
    rw [List.flatMap_assoc, List.map_flatMap]
    refine (List.Perm.flatMap_left _ hbucket).trans ?_
    rw [← List.map_flatMap, ← List.filter_flatMap]
    exact (hperm.filter _).map _
  · intro row hrow
    rw [← hperm.mem_iff] at hrow
    obtain ⟨b, hb, hrow⟩ := List.mem_flatMap.mp hrow
    obtain ⟨r, hr, hcovers⟩ := (Run.covers_of_items (hitems b hb)).1 row
      ((Row.sort_perm _).mem_iff.mpr hrow)
    exact ⟨r, List.mem_flatMap.mpr ⟨b, hb, hr⟩, hcovers⟩
  · intro p hp hkind r hr
    obtain ⟨row, hrow, hcovers⟩ := hcovered r hr
    exact same_eq_false_of_covers ho hrow hcovers hp hkind

/-- A row of a pool that does not choose by location, and a name in two spellings that answers one
group and not the other. -/
def pinnedChanges : List PoolStore.Change :=
  [.addZone "z.", .addPool "z." ⟨"PIN.z", .sourceIp⟩,
    .addRow "z." .ipv4
      { name := "pin.z.", type := "A", ttl := some 60, values := ["192.0.2.9"],
        geoGroup := some ⟨"1", "eu"⟩ },
    .addRow "z." .ipv4
      { name := "a.z.", type := "A", ttl := some 60, values := ["192.0.2.1"],
        geoGroup := some ⟨"1", "eu"⟩ },
    .addRow "z." .ipv6
      { name := "A.z", type := "AAAA", ttl := some 60, values := [], noResponse := true,
        geoGroup := some ⟨"2", "us"⟩ },
    .setTerritories "1" ["BE"], .setTerritories "2" ["US"]]

/-- The record sets of the zone: one that answers and one that does not. -/
def pinnedSets : List RoutedRecordSet :=
  [⟨⟨"a.z.", "A", some 60, [.single "address" (.text "192.0.2.1")]⟩,
      .single Route.geoKind (.geo ⟨"eu", ["BE"], false⟩)⟩,
    ⟨⟨"A.z", "AAAA", some 60, []⟩, .single Route.geoKind (.geo ⟨"us", ["US"], true⟩)⟩]

theorem items_all_conserves_rows_of_pinnedChanges :
    ∃ z, (PoolStore.ofHistory pinnedChanges).zone "z." = .ok z ∧
      z.pools = [⟨"PIN.z", .sourceIp⟩, ⟨"a.z.", .geolocation⟩] ∧
      (∀ e ∈ z.rows, (z.pools.countP fun p => same p.name e.2.name) = 1) ∧
      ((items PoolStore.source "z." ⟨.empty⟩ .all).run.run (.ofHistory pinnedChanges)).answer =
        .ok (pinnedSets.map .ok) ∧
      ((pinnedSets.flatMap RoutedRecordSet.answers).map some).Perm
        [some ⟨"A", some 60, some "eu", .single "address" (.text "192.0.2.1")⟩] ∧
      ∀ r ∈ pinnedSets, same "PIN.z" r.name = false := by
  obtain ⟨z, hz⟩ : ∃ z, (PoolStore.ofHistory pinnedChanges).zone "z." = .ok z := ⟨_, rfl⟩
  have hpools : z.pools = [⟨"PIN.z", .sourceIp⟩, ⟨"a.z.", .geolocation⟩] := by
    cases hz
    decide +kernel
  have hlisted : ((items PoolStore.source "z." ⟨.empty⟩ .all).run.run
      (.ofHistory pinnedChanges)).answer = .ok (pinnedSets.map .ok) := by
    rw [items_all_of_zone hz, hpools]
    decide +kernel
  have hrows : ((z.rowsIn .geolocation).filter Row.answers).map (Row.answer? provider) =
      [some ⟨"A", some 60, some "eu", .single "address" (.text "192.0.2.1")⟩] := by
    cases hz
    decide +kernel
  obtain ⟨-, hone, hall⟩ := items_all_conserves_rows pinnedChanges hz
  obtain ⟨hperm, -, -, hpin⟩ := hall _ pinnedSets hlisted
  rw [hrows] at hperm
  refine ⟨z, hz, hpools, hone, hlisted, hperm, ?_⟩
  rw [hpools] at hpin
  exact hpin ⟨"PIN.z", .sourceIp⟩ List.mem_cons_self rfl

end Pool

end GeoRouting
