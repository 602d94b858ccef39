import GeoRouting.Proofs.Partition
import GeoRouting.Proofs.Pool.StoredRows
import GeoRouting.Proofs.Row.Accounting
import GeoRouting.Proofs.Row.Sorting

/-!
# Listing a name type by type

A listing of one type goes only to the buckets that can hold the type. When every row of a zone
lies in such a bucket, a listing of a name that is without an error is shared out by type: each
listing of a type gives the record sets of that type, in their order, and the types together give
every record set once.
-/

namespace GeoRouting

namespace Bucket

/-- The buckets of a type are in listing order. -/
theorem filter_all_holding (type : String) :
    (all.filter fun b => decide (b ∈ holding type)) = holding type := by
  rw [holding_eq]
  split <;> rfl

/-- A type that some bucket can hold is one that can be routed. -/
theorem mem_types_of_mem_holding {type : String} {b : Bucket} (h : b ∈ holding type) :
    type ∈ Pool.types := by
  rw [holding_eq] at h
  split at h
  case h_10 => cases h
  all_goals decide

end Bucket

/-- The record sets of a type, whatever the case of its letters. -/
def RoutedRecordSet.ofType (type : String) (sets : List RoutedRecordSet) : List RoutedRecordSet :=
  sets.filter fun r => r.type == Text.upper type

namespace PoolZone

/-- Whether every row is in a bucket that can hold its type. -/
def LaidOut (z : PoolZone) : Prop := ∀ e ∈ z.rows, e.1 ∈ Bucket.holding e.2.type

end PoolZone

namespace Pool

section
variable {s : PoolStore} {zone : String} {z : PoolZone} {regions : RegionTable} {name : String}

/-- A record set of a bucket has a type that the bucket can hold. -/
theorem mem_holding_of_bucketItems (hz : s.zone zone = .ok z) (hl : z.LaidOut)
    {b : String × Bucket} {own : List RoutedRecordSet}
    (h : BucketCursor.bucketItems s.reply zone regions b = own.map .ok) {r : RoutedRecordSet}
    (hr : r ∈ own) : b.2 ∈ Bucket.holding r.type := by
  obtain ⟨row, hrow, hcovers⟩ := exists_covers_of_bucketItems hz (h ▸ List.mem_map_of_mem hr)
  have hstored := PoolZone.mem_rowsOf.mp hrow
  rw [hcovers.type]
  exact hl (b.2, row) hstored.1

/-- When rows are laid out by type, a listing of a name that is without an error is shared out by
the listings of its types: each gives the record sets of its type, and together they give every
record set once. -/
theorem items_typed_of_items_named (hz : s.zone zone = .ok z) (hl : z.LaidOut)
    (hn : Text.isBlank name = false) {sets : List RoutedRecordSet}
    (h : ((items PoolStore.source zone regions (.named name)).run.run s).answer =
      .ok (sets.map .ok)) :
    (∀ type, Text.isBlank type = false →
      ((items PoolStore.source zone regions (.typed name type)).run.run s).answer =
        .ok ((RoutedRecordSet.ofType type sets).map .ok)) ∧
      (types.flatMap fun type => RoutedRecordSet.ofType type sets).Perm sets := by
  have hs := PoolStore.source_steady s
  have hexists := PoolStore.reply_zoneExists hz
  rw [items_named_steady hs hexists hn, Except.ok.injEq, Item.upToError_eq_map_ok] at h
  simp only [BucketCursor.filter_keeps_none] at h
  obtain ⟨own, rfl, hown⟩ := Item.exists_own h
  have hheld : ∀ b ∈ bucketsOf Bucket.all name, ∀ r ∈ own b, b.2 ∈ Bucket.holding r.type :=
    fun b hb r => mem_holding_of_bucketItems hz hl (hown b hb)
  constructor
  · intro type ht
    rw [items_typed_steady hs hexists hn ht, Except.ok.injEq, Item.upToError_eq_map_ok,
      RoutedRecordSet.ofType, List.filter_flatMap, List.map_flatMap]
    simp only [bucketsOf, List.flatMap_map]
    let typed (b : Bucket) : List Item :=
      ((own (name, b)).filter fun r => r.type == Text.upper type).map .ok
    have hkept : ∀ b, (BucketCursor.bucketItems s.reply zone regions (name, b)).filter
        (BucketCursor.keeps (some (Text.upper type))) = typed b := by
      intro b
      rw [hown (name, b) (List.mem_map_of_mem (Bucket.mem_all b)), List.filter_map]
      rfl
    have hout : ∀ b ∈ Bucket.all, decide (b ∈ Bucket.holding (Text.upper type)) = false →
        typed b = [] := by
      intro b hb hout
      rw [List.map_eq_nil_iff, List.filter_eq_nil_iff]
      intro r hr htype
      have hin := hheld (name, b) (List.mem_map_of_mem hb) r hr
      rw [beq_iff_eq.mp htype] at hin
      exact of_decide_eq_false hout hin
    calc (Bucket.holding (Text.upper type)).flatMap _
        = (Bucket.holding (Text.upper type)).flatMap typed := List.flatMap_congr fun b _ => hkept b
      _ = (Bucket.all.filter _).flatMap typed := by rw [Bucket.filter_all_holding]
      _ = Bucket.all.flatMap typed := flatMap_filter_of_nil hout
  · apply flatMap_filter_perm
    intro r hr
    obtain ⟨b, hb, hr⟩ := List.mem_flatMap.mp hr
    have honce : ∀ type ∈ types, (types.countP fun t => type == Text.upper t) = 1 := by
      decide +kernel
    exact honce r.type (Bucket.mem_types_of_mem_holding (hheld b hb r hr))

end

/-- An alias before an address in one bucket, and an alias in the other. -/
def mixedRows : List Row :=
  [{ name := "a.z.", type := "CNAME", ttl := some 60, values := ["one.z."],
      geoGroup := some ⟨"2", "us"⟩ },
    { name := "A.z", type := "A", ttl := some 60, values := ["192.0.2.1"],
      geoGroup := some ⟨"1", "eu"⟩ }]

def mixedStore : PoolStore := .ofHistory <|
  .addZone "z." :: mixedRows.map (.addRow "z." .ipv4) ++
    [.addRow "z." .ipv6
      { name := "a.z.", type := "CNAME", ttl := some 60, values := ["two.z."],
        geoGroup := some ⟨"1", "eu"⟩ },
      .setTerritories "1" ["BE"], .setTerritories "2" ["US"]]

def mixedAddress : RoutedRecordSet :=
  ⟨⟨"A.z", "A", some 60, [.single "address" (.text "192.0.2.1")]⟩,
    .single Route.geoKind (.geo ⟨"eu", ["BE"], false⟩)⟩

def mixedAlias (target group territory : String) : RoutedRecordSet :=
  ⟨⟨"a.z.", "CNAME", some 60, [.single "cname" (.text target)]⟩,
    .single Route.geoKind (.geo ⟨group, [territory], false⟩)⟩

theorem items_typed_of_mixedStore :
    ∃ z, mixedStore.zone "z." = .ok z ∧ z.LaidOut ∧
      Text.isBlank "a.z." = false ∧ Text.isBlank "cname" = false ∧
      ((items PoolStore.source "z." ⟨.empty⟩ (.named "a.z.")).run.run mixedStore).answer =
        .ok ([mixedAddress, mixedAlias "one.z." "us" "US",
          mixedAlias "two.z." "eu" "BE"].map .ok) ∧
      ((items PoolStore.source "z." ⟨.empty⟩ (.typed "a.z." "cname")).run.run
          mixedStore).answer =
        .ok ([mixedAlias "one.z." "us" "US", mixedAlias "two.z." "eu" "BE"].map .ok) := by
  obtain ⟨z, hz⟩ : ∃ z, mixedStore.zone "z." = .ok z := ⟨_, rfl⟩
  have hl : z.LaidOut := by
    cases hz
    unfold PoolZone.LaidOut
    decide +kernel
  have hn : Text.isBlank "a.z." = false := by decide +kernel
  have ht : Text.isBlank "cname" = false := by decide +kernel
  have hlisted : ((items PoolStore.source "z." ⟨.empty⟩ (.named "a.z.")).run.run
      mixedStore).answer =
      .ok ([mixedAddress, mixedAlias "one.z." "us" "US",
        mixedAlias "two.z." "eu" "BE"].map .ok) := by
    have hrows : mixedStore.reply (.rows "z." "a.z." .ipv4) = .ok mixedRows := by
      decide +kernel
    have hsort : Row.sort mixedRows = [mixedRows[1], mixedRows[0]] := by
      apply Row.sort_eq_of_perm
      · decide +kernel
      · decide +kernel
      · decide +kernel
    rw [items_named_steady (PoolStore.source_steady mixedStore)
      (PoolStore.reply_zoneExists hz) hn]
    change Except.ok (Item.upToError
      ((BucketCursor.bucketItems mixedStore.reply "z." ⟨.empty⟩ ("a.z.", .ipv4)).filter
        (BucketCursor.keeps none) ++ _)) = _
    rw [BucketCursor.bucketItems, hrows]
    dsimp only
    rw [hsort]
    decide +kernel
  refine ⟨z, hz, hl, hn, ht, hlisted, ?_⟩
  rw [(items_typed_of_items_named hz hl hn hlisted).1 "cname" ht]
  decide +kernel

end Pool

end GeoRouting
