import GeoRouting.Proofs.Pool.Conservation
import GeoRouting.Proofs.Pool.Target

/-!
# Pools that do not choose by location

Listing a zone leaves out the pools that do not choose by location. The queries for a name do not
ask for the kind of its pool. They give no record set of such a pool only when no row that they
ask for is stored, or when they fail before the first one.
-/

namespace GeoRouting

open DomainName (same)

/-! ## Without record sets -/

/-- What is cut after its first error has no record set exactly when it starts with an error or is
empty. -/
theorem Item.ok_notMem_upToError_iff {items : List Item} :
    (∀ r, Except.ok r ∉ upToError items) ↔ items = [] ∨ ∃ e, upToError items = [.error e] := by
  rcases items with _ | ⟨e | r, items⟩
  · simp
  · simp
  · simp only [upToError_ok, reduceCtorEq, List.cons.injEq, false_and, exists_false, or_false,
      iff_false, not_forall, not_not]
    exact ⟨r, List.mem_cons_self⟩

namespace Pool

section
variable {s : PoolStore} {zone : String} {z : PoolZone} {regions : RegionTable} {name : String}

theorem bucketItems_eq_nil (hz : s.zone zone = .ok z) {b : String × Bucket} :
    BucketCursor.bucketItems s.reply zone regions b = [] ↔ z.rowsOf b.1 b.2 = [] := by
  rw [PoolStore.bucketItems_of_zone hz, Item.upToError_eq_nil, Run.items_eq_nil, Row.sort_eq_nil]

/-- When a bucket gives nothing of a type, not even an error, it has no row of the type: errors are
given whatever the type of their rows. -/
theorem type_ne_of_bucketItems (hz : s.zone zone = .ok z) {b : String × Bucket} {type : String}
    (h : (BucketCursor.bucketItems s.reply zone regions b).filter
      (BucketCursor.keeps (some type)) = []) {row : Row} (hrow : row ∈ z.rowsOf b.1 b.2) :
    row.type ≠ type := by
  rw [PoolStore.bucketItems_of_zone hz] at h
  obtain ⟨all, hall, hkept⟩ := @Item.eq_map_ok_of_kept _ type [] h
  obtain ⟨r, hr, hcovers⟩ := (Run.covers_of_items (Item.upToError_eq_map_ok.mp hall)).1 row
    ((Row.sort_perm _).mem_iff.mpr hrow)
  have hother := List.filter_eq_nil_iff.mp hkept.symm r hr
  rw [← hcovers.type]
  exact fun htype => hother (beq_iff_eq.mpr htype)

/-- The listing of a name has no record set exactly when no row of the name is stored or it
starts with an error. -/
theorem items_named_without_sets (hz : s.zone zone = .ok z) (hn : Text.isBlank name = false) :
    ∃ listed,
      ((items PoolStore.source zone regions (.named name)).run.run s).answer = .ok listed ∧
      ((∀ r, .ok r ∉ listed) ↔ (∀ b, z.rowsOf name b = []) ∨ ∃ e, listed = [.error e]) := by
  refine ⟨_, items_named_steady (PoolStore.source_steady s) (PoolStore.reply_zoneExists hz) hn, ?_⟩
  rw [Item.ok_notMem_upToError_iff, List.flatMap_eq_nil_iff, bucketsOf, List.forall_mem_map]
  simp only [BucketCursor.filter_keeps_none, bucketItems_eq_nil hz, Bucket.mem_all,
    forall_true_left]

/-- The listing of a name and a type has no record set exactly when the buckets of the type have
no row of it or it starts with an error. -/
theorem items_typed_without_sets (hz : s.zone zone = .ok z) (hn : Text.isBlank name = false)
    {type : String} (ht : Text.isBlank type = false) :
    ∃ listed,
      ((items PoolStore.source zone regions (.typed name type)).run.run s).answer = .ok listed ∧
      ((∀ r, .ok r ∉ listed) ↔
        (∀ b ∈ Bucket.holding (Text.upper type), ∀ row ∈ z.rowsOf name b,
          row.type ≠ Text.upper type) ∨ ∃ e, listed = [.error e]) := by
  have hlisted := @items_typed_steady _ _ _ s zone regions (PoolStore.source_steady s)
    (PoolStore.reply_zoneExists hz) _ _ hn ht
  refine ⟨_, hlisted, ?_⟩
  constructor
  · intro h
    refine (Item.ok_notMem_upToError_iff.mp h).imp_left fun hnil b hb row hrow => ?_
    have hmem : (name, b) ∈ bucketsOf (Bucket.holding (Text.upper type)) name :=
      List.mem_map_of_mem hb
    exact type_ne_of_bucketItems hz (List.flatMap_eq_nil_iff.mp hnil (name, b) hmem) hrow
  · rintro (hrows | ⟨e, he⟩) r hr
    · obtain ⟨b, hb, row, hrow, htype, -⟩ := exists_covers_of_items_typed hz hn ht hlisted hr
      exact hrows b hb row hrow htype
    · rw [he] at hr
      simp at hr

/-- No record set is got for a group exactly when no row of it is stored or the first run of its
rows is refused. -/
theorem getTarget_without_set (hz : s.zone zone = .ok z) (hn : Text.isBlank name = false)
    {type group : String} (ht : Text.isBlank type = false) (hg : Text.isBlank group = false) :
    let got := ((getTarget PoolStore.source zone regions ⟨name, type, group⟩).run.run s).answer
    (∀ r, got ≠ .ok (some r)) ↔
      z.rowsFor name (Text.upper type) group = [] ∨ ∃ e, got = .error e := by
  intro got
  have hgot : got = Item.first (Run.items provider (territories s.reply regions)
      (z.rowsFor name (Text.upper type) group)) := getTarget_of_zone hz hn ht hg
  rw [hgot, ← @Run.items_eq_nil provider (territories s.reply regions)]
  generalize Run.items _ _ _ = found
  rcases found with _ | ⟨e | r, found⟩ <;> simp [Item.first]

end

/-- A listing of a zone has no record set with the name of a pool that does not choose by
location, whatever errors it gives. -/
theorem same_eq_false_of_items_all {s : PoolStore} {zone : String} {z : PoolZone}
    (hz : s.zone zone = .ok z) (ho : z.Owned) (regions : RegionTable) :
    ∃ listed, ((items PoolStore.source zone regions .all).run.run s).answer = .ok listed ∧
      ∀ p ∈ z.pools, p.kind = .sourceIp → ∀ r, .ok r ∈ listed → same p.name r.name = false := by
  refine ⟨_, items_all_of_zone hz regions, ?_⟩
  intro p hp hkind r hr
  obtain ⟨b, hb, hr⟩ := List.mem_flatMap.mp ((Item.upToError_prefix _).subset hr)
  obtain ⟨row, hrow, hcovers⟩ := exists_covers_of_bucketItems hz hr
  have hlocated : row ∈ z.rowsIn .geolocation :=
    (perm_rows_of_geoBuckets ho).mem_iff.mp (List.mem_flatMap.mpr ⟨b, hb, hrow⟩)
  exact same_eq_false_of_covers ho hlocated hcovers hp hkind

/-- In every zone that changes built, listing the zone gives no record set of a pool that does not
choose by location. A query for the name of the pool gives none exactly when no row that it asks
for is stored or it fails before the first one. -/
theorem without_sets_of_sourceIp (changes : List PoolStore.Change) {zone : String} {z : PoolZone}
    (hz : (PoolStore.ofHistory changes).zone zone = .ok z) {p : Pool} (hp : p ∈ z.pools)
    (hkind : p.kind = .sourceIp) {name : String} (hname : same p.name name = true)
    (regions : RegionTable) :
    let listed selection :=
      ((items PoolStore.source zone regions selection).run.run (.ofHistory changes)).answer
    let got target :=
      ((getTarget PoolStore.source zone regions target).run.run (.ofHistory changes)).answer
    (∃ found, listed .all = .ok found ∧ ∀ r, .ok r ∈ found → same name r.name = false) ∧
    (Text.isBlank name = false →
      (∃ found, listed (.named name) = .ok found ∧
        ((∀ r, .ok r ∉ found) ↔ (∀ b, z.rowsOf name b = []) ∨ ∃ e, found = [.error e])) ∧
      ∀ type, Text.isBlank type = false →
        (∃ found, listed (.typed name type) = .ok found ∧
          ((∀ r, .ok r ∉ found) ↔
            (∀ b ∈ Bucket.holding (Text.upper type), ∀ row ∈ z.rowsOf name b,
              row.type ≠ Text.upper type) ∨ ∃ e, found = [.error e])) ∧
        ∀ group, Text.isBlank group = false →
          ((∀ r, got ⟨name, type, group⟩ ≠ .ok (some r)) ↔
            z.rowsFor name (Text.upper type) group = [] ∨
              ∃ e, got ⟨name, type, group⟩ = .error e)) := by
  intro listed got
  constructor
  · obtain ⟨found, hfound, hnone⟩ :=
      same_eq_false_of_items_all hz ((PoolStore.owned_ofHistory changes).zone hz) regions
    refine ⟨found, hfound, fun r hr => ?_⟩
    have hpool := hnone p hp hkind r hr
    rw [Bool.eq_false_iff] at hpool ⊢
    exact fun hsame => hpool (DomainName.same_trans hname hsame)
  · intro hn
    refine ⟨items_named_without_sets hz hn, fun type ht => ?_⟩
    exact ⟨items_typed_without_sets hz hn ht, fun group hg => getTarget_without_set hz hn ht hg⟩

/-- A row in a pool that does not choose by location. -/
def pinnedRows : List PoolStore.Change :=
  [.addZone "z.", .addPool "z." ⟨"pin.z.", .sourceIp⟩,
    .addRow "z." .ipv4
      { name := "pin.z.", type := "A", ttl := some 60, values := ["192.0.2.9"],
        geoGroup := some ⟨"1", "eu"⟩ },
    .setTerritories "1" ["BE"]]

def pinnedSet : RoutedRecordSet :=
  ⟨⟨"pin.z.", "A", some 60, [.single "address" (.text "192.0.2.9")]⟩,
    .single Route.geoKind (.geo ⟨"eu", ["BE"], false⟩)⟩

/-- The name has a row, so its record set is given, but there is none of another type. -/
theorem without_sets_of_pinnedRows :
    ∃ z, (PoolStore.ofHistory pinnedRows).zone "z." = .ok z ∧
      ⟨"pin.z.", .sourceIp⟩ ∈ z.pools ∧ same "pin.z." "PIN.z" = true ∧
      Text.isBlank "PIN.z" = false ∧ Text.isBlank "mx" = false ∧ Text.isBlank "eu" = false ∧
      (∃ found, ((items PoolStore.source "z." ⟨.empty⟩ .all).run.run
          (.ofHistory pinnedRows)).answer = .ok found ∧
        ∀ r, .ok r ∈ found → same "PIN.z" r.name = false) ∧
      ((items PoolStore.source "z." ⟨.empty⟩ (.named "PIN.z")).run.run
        (.ofHistory pinnedRows)).answer = .ok [.ok pinnedSet] ∧
      (¬ ∀ b, z.rowsOf "PIN.z" b = []) ∧
      (∃ found, ((items PoolStore.source "z." ⟨.empty⟩ (.typed "PIN.z" "mx")).run.run
          (.ofHistory pinnedRows)).answer = .ok found ∧ ∀ r, .ok r ∉ found) ∧
      ∀ r, ((getTarget PoolStore.source "z." ⟨.empty⟩ ⟨"PIN.z", "mx", "eu"⟩).run.run
        (.ofHistory pinnedRows)).answer ≠ .ok (some r) := by
  obtain ⟨z, hz⟩ : ∃ z, (PoolStore.ofHistory pinnedRows).zone "z." = .ok z := ⟨_, rfl⟩
  have hp : ⟨"pin.z.", .sourceIp⟩ ∈ z.pools := by
    cases hz
    decide +kernel
  have hsame : same "pin.z." "PIN.z" = true := by decide +kernel
  have hn : Text.isBlank "PIN.z" = false := by decide +kernel
  have ht : Text.isBlank "mx" = false := by decide +kernel
  have hg : Text.isBlank "eu" = false := by decide +kernel
  have hgiven : ((items PoolStore.source "z." ⟨.empty⟩ (.named "PIN.z")).run.run
      (.ofHistory pinnedRows)).answer = .ok [.ok pinnedSet] := by
    rw [items_named_steady (PoolStore.source_steady _) (PoolStore.reply_zoneExists hz) hn]
    decide +kernel
  have hnone : ∀ b ∈ Bucket.holding (Text.upper "mx"), z.rowsOf "PIN.z" b = [] := by
    cases hz
    decide +kernel
  obtain ⟨hall, hqueries⟩ := without_sets_of_sourceIp pinnedRows hz hp rfl hsame ⟨.empty⟩
  obtain ⟨⟨found, hfound, hnamed⟩, htypes⟩ := hqueries hn
  obtain ⟨⟨typed, htyped, hwithout⟩, hgroups⟩ := htypes "mx" ht
  refine ⟨z, hz, hp, hsame, hn, ht, hg, hall, hgiven, ?_, ⟨typed, htyped, ?_⟩, ?_⟩
  · cases hgiven.symm.trans hfound
    exact fun hempty => hnamed.mpr (.inl hempty) pinnedSet List.mem_cons_self
  · refine hwithout.mpr (.inl fun b hb row hrow => ?_)
    rw [hnone b hb] at hrow
    cases hrow
  · refine (hgroups "eu" hg).mpr (.inl (List.flatMap_eq_nil_iff.mpr fun b hb => ?_))
    rw [hnone b hb]
    rfl

/-- Listing the zone gives nothing, but each query for the name gives the record set. -/
theorem sourceIp_rows_are_given :
    ∃ z, (PoolStore.ofHistory pinnedRows).zone "z." = .ok z ∧
      ⟨"pin.z.", .sourceIp⟩ ∈ z.pools ∧
      ((items PoolStore.source "z." ⟨.empty⟩ .all).run.run (.ofHistory pinnedRows)).answer =
        .ok [] ∧
      ((items PoolStore.source "z." ⟨.empty⟩ (.named "pin.z.")).run.run
        (.ofHistory pinnedRows)).answer = .ok [.ok pinnedSet] ∧
      ((items PoolStore.source "z." ⟨.empty⟩ (.typed "pin.z." "A")).run.run
        (.ofHistory pinnedRows)).answer = .ok [.ok pinnedSet] ∧
      ((getTarget PoolStore.source "z." ⟨.empty⟩ ⟨"pin.z.", "A", "eu"⟩).run.run
        (.ofHistory pinnedRows)).answer = .ok (some pinnedSet) := by
  have hs := PoolStore.source_steady (.ofHistory pinnedRows)
  obtain ⟨z, hz⟩ : ∃ z, (PoolStore.ofHistory pinnedRows).zone "z." = .ok z := ⟨_, rfl⟩
  have hexists := PoolStore.reply_zoneExists hz
  have hn : Text.isBlank "pin.z." = false := by decide +kernel
  have ht : Text.isBlank "A" = false := by decide +kernel
  refine ⟨z, hz, ?_, ?_, ?_, ?_, by decide +kernel⟩
  · cases hz
    decide +kernel
  · rw [items_all_of_zone hz]
    cases hz
    decide +kernel
  · rw [items_named_steady hs hexists hn]
    decide +kernel
  · rw [items_typed_steady hs hexists hn ht]
    decide +kernel

end Pool

end GeoRouting
