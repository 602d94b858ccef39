import GeoRouting.Proofs.Pool.Conservation
import GeoRouting.Proofs.Pool.Target

/-!
# How a store interleaves its rows

A store gives the rows of a name in the order in which they were added, whatever their types and
groups are. Listings sort them first, and getting a group takes the rows of one type and group, so
only the order within each type and group shows. What is listed of a bucket is in the order of the
types and then of the groups.
-/

namespace GeoRouting

/-! ## Rearranged rows -/

namespace PoolZone

/-- The rows of one bucket, name, type and group. -/
def inClass (bucket : Bucket) (name type : String) (group : Option String) (e : Bucket × Row) :
    Bool :=
  (e.1 == bucket && DomainName.same e.2.name name) && e.2.ofClass type group

theorem inClass_iff {bucket : Bucket} {name type : String} {group : Option String}
    {e : Bucket × Row} :
    inClass bucket name type group e = true ↔ e.1 = bucket ∧
      DomainName.key e.2.name = DomainName.key name ∧ e.2.type = type ∧
      e.2.groupName? = group := by
  simp [inClass, Row.ofClass_iff, and_assoc]

theorem inClass_self (e : Bucket × Row) :
    inClass e.1 e.2.name e.2.type e.2.groupName? e = true :=
  inClass_iff.mpr ⟨rfl, rfl, rfl, rfl⟩

/-- Whether two zones have the same pools, and rows that differ only in how the rows of different
buckets, names, types and groups are interleaved. -/
structure Rearranged (z y : PoolZone) : Prop where
  pools : y.pools = z.pools
  rows : ∀ bucket name type group,
    y.rows.filter (inClass bucket name type group) = z.rows.filter (inClass bucket name type group)

/-- Rearranged rows are a permutation. -/
theorem Rearranged.perm {z y : PoolZone} (h : z.Rearranged y) : y.rows.Perm z.rows := by
  rw [List.perm_iff_count]
  intro e
  have hself : inClass e.1 e.2.name e.2.type e.2.groupName? e = true := inClass_self e
  rw [← List.count_filter hself, h.rows, List.count_filter hself]

/-- Two neighbours of different classes can change places. -/
theorem rearranged_swap {pools : List Pool} {before after : List (Bucket × Row)}
    {e f : Bucket × Row} (h : inClass e.1 e.2.name e.2.type e.2.groupName? f = false) :
    Rearranged ⟨pools, before ++ e :: f :: after⟩ ⟨pools, before ++ f :: e :: after⟩ where
  pools := rfl
  rows := by
    intro bucket name type group
    have hapart : inClass bucket name type group e = false ∨
        inClass bucket name type group f = false := by
      by_contra hboth
      simp only [not_or, Bool.not_eq_false, inClass_iff] at hboth
      obtain ⟨⟨he, hen, het, heg⟩, hf, hfn, hft, hfg⟩ := hboth
      rw [inClass_iff.mpr ⟨hf.trans he.symm, hfn.trans hen.symm, hft.trans het.symm,
        hfg.trans heg.symm⟩] at h
      cases h
    rw [List.filter_append, List.filter_append]
    congr 1
    rcases hapart with hn | hn
    · simp [List.filter_cons, hn]
    · simp [List.filter_cons, hn]

variable {z y : PoolZone}

theorem filter_rowsOf (z : PoolZone) (name : String) (bucket : Bucket) (type : String)
    (group : Option String) :
    (z.rowsOf name bucket).filter (Row.ofClass type group) =
      (z.rows.filter (inClass bucket name type group)).map Prod.snd := by
  rw [rowsOf, filter_rowsWhere, rowsWhere]
  simp only [Bool.and_comm]
  rfl

theorem Rearranged.filter_rowsOf (h : z.Rearranged y) (name : String) (bucket : Bucket)
    (type : String) (group : Option String) :
    (y.rowsOf name bucket).filter (Row.ofClass type group) =
      (z.rowsOf name bucket).filter (Row.ofClass type group) := by
  rw [PoolZone.filter_rowsOf, PoolZone.filter_rowsOf, h.rows]

/-- The rows of a bucket are sorted alike. -/
theorem Rearranged.sort_rowsOf (h : z.Rearranged y) (name : String) (bucket : Bucket) :
    Row.sort (y.rowsOf name bucket) = Row.sort (z.rowsOf name bucket) :=
  Row.sort_eq_of_classes fun type group => h.filter_rowsOf name bucket type group

theorem Rearranged.rowsFor_eq (h : z.Rearranged y) (name type group : String) :
    y.rowsFor name type group = z.rowsFor name type group :=
  List.flatMap_congr fun b _ => h.filter_rowsOf name b type (some group)

end PoolZone

namespace PoolStore
variable {s t : PoolStore}

/-- Whether two stores have the same zones and territories, and zone by zone rearranged rows. -/
structure Rearranged (s t : PoolStore) : Prop where
  zones : ∀ zone, Option.Rel PoolZone.Rearranged (s.zones.get? zone) (t.zones.get? zone)
  territories : t.territories = s.territories

/-- A zone is missing in both stores or rearranged. -/
theorem Rearranged.zone (h : s.Rearranged t) (zone : String) :
    (∃ e, s.zone zone = .error e ∧ t.zone zone = .error e) ∨
      ∃ z y, s.zone zone = .ok z ∧ t.zone zone = .ok y ∧ z.Rearranged y := by
  have hzones := h.zones zone
  rw [PoolStore.zone, PoolStore.zone]
  cases hs : s.zones.get? zone with
  | none =>
    cases ht : t.zones.get? zone with
    | none => exact .inl ⟨_, rfl, rfl⟩
    | some y =>
      rw [hs, ht] at hzones
      cases hzones
  | some z =>
    cases ht : t.zones.get? zone with
    | none =>
      rw [hs, ht] at hzones
      cases hzones
    | some y =>
      rw [hs, ht] at hzones
      cases hzones with
      | some hzy => exact .inr ⟨z, y, rfl, rfl, hzy⟩

theorem Rearranged.pools_eq (h : s.Rearranged t) (zone : String) :
    t.reply (.pools zone) = s.reply (.pools zone) := by
  rw [reply, reply]
  rcases h.zone zone with ⟨e, hs, ht⟩ | ⟨z, y, hs, ht, hzy⟩
  · rw [hs, ht]
  · rw [hs, ht]
    exact congrArg Except.ok hzy.pools

theorem Rearranged.territories_eq (h : s.Rearranged t) (regions : RegionTable) :
    Pool.territories t.reply regions = Pool.territories s.reply regions := by
  have hreply : ∀ id, t.reply (.territories id) = s.reply (.territories id) := by
    intro id
    rw [reply, reply, h.territories]
  unfold Pool.territories
  simp only [hreply]

theorem Rearranged.planned_eq (h : s.Rearranged t) (zone : String) (regions : RegionTable)
    (selection : Selection) :
    Pool.planned t.reply zone regions selection = Pool.planned s.reply zone regions selection := by
  cases selection with
  | all => rw [Pool.planned, Pool.planned, h.pools_eq]
  | named name => rfl
  | typed name type => rfl

theorem Rearranged.bucketItems_eq (h : s.Rearranged t) (zone : String) (regions : RegionTable)
    (b : String × Bucket) :
    BucketCursor.bucketItems t.reply zone regions b =
      BucketCursor.bucketItems s.reply zone regions b := by
  rcases h.zone zone with ⟨e, hs, ht⟩ | ⟨z, y, hs, ht, hzy⟩
  · rw [BucketCursor.bucketItems, BucketCursor.bucketItems, reply, reply, hs, ht]
    rfl
  · rw [bucketItems_of_zone ht, bucketItems_of_zone hs, h.territories_eq, hzy.sort_rowsOf]

theorem Rearranged.remaining_eq (h : s.Rearranged t) (l : PoolListing) :
    l.remaining t.reply = l.remaining s.reply := by
  unfold PoolListing.remaining PoolListing.upcoming
  simp only [h.territories_eq, h.bucketItems_eq]

end PoolStore

/-! ## The order in a bucket -/

/-- Whether a record set may be listed before another: by type, and in one type by group. -/
def RoutedRecordSet.InOrder (r t : RoutedRecordSet) : Prop :=
  r.type < t.type ∨
    r.type = t.type ∧ ∃ g ∈ r.geo?, ∃ h ∈ t.geo?, g.group ≤ h.group

theorem Row.pairwise_runs {R : Row → Row → Prop} {rows : List Row} (h : rows.Pairwise R) :
    (runs rows).Pairwise fun run next => ∀ r ∈ run, ∀ s ∈ next, R r s := by
  rw [← List.flatten_splitBy agrees rows, List.pairwise_flatten] at h
  exact h.2

namespace Run
variable {provider : String} {territories : String → Except GeoError (List String)}

/-- Record sets are in the order of the first rows of their runs. -/
theorem inOrder_of_precedes {first next : Row} {others more : List Row} {r t : RoutedRecordSet}
    (hr : item provider territories first others = .ok r)
    (ht : item provider territories next more = .ok t) (h : first.precedes next = true) :
    r.InOrder t := by
  obtain ⟨g, codes, hg, -, -, -, -, rfl⟩ := item_eq_ok.mp hr
  obtain ⟨k, codes', hk, -, -, -, -, rfl⟩ := item_eq_ok.mp ht
  rcases Row.precedes_iff.mp h with htype | ⟨htype, hgroup⟩
  · exact .inl htype
  · obtain ⟨name, hname, hle⟩ := hgroup g.name (by rw [Row.groupName?, hg]; rfl)
    rw [Row.groupName?, hk] at hname
    cases Option.some.inj hname
    exact .inr ⟨htype, _, rfl, _, rfl, hle⟩

theorem pairwise_sets_items {rows : List Row}
    (h : rows.Pairwise fun r s => r.precedes s = true) :
    (Item.sets (items provider territories rows)).Pairwise RoutedRecordSet.InOrder := by
  rw [Item.sets, items, List.filterMap_filterMap, List.pairwise_filterMap]
  refine (Row.pairwise_runs h).imp ?_
  intro run next hrun r hr t ht
  cases run with
  | nil => cases hr
  | cons first others =>
    cases next with
    | nil => cases ht
    | cons first' others' =>
      exact inOrder_of_precedes (Item.toOption_eq_some.mp hr) (Item.toOption_eq_some.mp ht)
        (hrun first List.mem_cons_self first' List.mem_cons_self)

end Run

/-- The record sets of a bucket are in the order of their types and groups. -/
theorem BucketCursor.pairwise_sets_bucketItems (data : (c : PoolCall) → Except GeoError c.Reply)
    (zone : String) (regions : RegionTable) (b : String × Bucket) :
    (Item.sets (bucketItems data zone regions b)).Pairwise RoutedRecordSet.InOrder := by
  rw [bucketItems]
  split
  · exact List.Pairwise.nil
  · rename_i fetched _
    have hcut := (Item.upToError_prefix (Run.items Pool.provider (Pool.territories data regions)
      (Row.sort fetched))).filterMap Except.toOption
    exact (Run.pairwise_sets_items (Row.sort_pairwise fetched)).sublist hcut.sublist

theorem Bucket.holding_sublist_all (type : String) : (holding type).Sublist all := by
  rw [holding_eq]
  split <;> decide

namespace Pool

/-- Queries to stores that differ in the interleaving of their rows have the same answers. What is
listed comes pool by pool and bucket by bucket, and in a bucket by type and group. -/
theorem answers_of_rearranged {s t : PoolStore} (h : s.Rearranged t) (zone : String)
    (regions : RegionTable) :
    (∀ selection, ((items PoolStore.source zone regions selection).run.run t).answer =
      ((items PoolStore.source zone regions selection).run.run s).answer) ∧
    (∀ target, ((getTarget PoolStore.source zone regions target).run.run t).answer =
      ((getTarget PoolStore.source zone regions target).run.run s).answer) ∧
    ∀ z, s.zone zone = .ok z →
      ((items PoolStore.source zone regions .all).run.run s).answer =
        .ok (Item.upToError ((z.pools.filter fun p => p.kind = .geolocation).flatMap fun p =>
          Bucket.all.flatMap fun b => BucketCursor.bucketItems s.reply zone regions (p.name, b))) ∧
      (∀ name, Text.isBlank name = false →
        ((items PoolStore.source zone regions (.named name)).run.run s).answer =
          .ok (Item.upToError (Bucket.all.flatMap fun b =>
            BucketCursor.bucketItems s.reply zone regions (name, b)))) ∧
      (∀ name type, Text.isBlank name = false → Text.isBlank type = false →
        (Bucket.holding (Text.upper type)).Sublist Bucket.all ∧
        ((items PoolStore.source zone regions (.typed name type)).run.run s).answer =
          .ok (Item.upToError ((Bucket.holding (Text.upper type)).flatMap fun b =>
            (BucketCursor.bucketItems s.reply zone regions (name, b)).filter
              (BucketCursor.keeps (some (Text.upper type)))))) ∧
      ∀ b, (Item.sets (BucketCursor.bucketItems s.reply zone regions b)).Pairwise
        RoutedRecordSet.InOrder := by
  refine ⟨?_, ?_, ?_⟩
  · intro selection
    rw [items_of_store, items_of_store]
    congr 1
    funext checked
    rw [h.planned_eq, show PoolListing.remaining t.reply = PoolListing.remaining s.reply from
      funext h.remaining_eq]
    rcases h.zone zone with ⟨e, hs, ht⟩ | ⟨z, y, hs, ht, -⟩
    · rw [hs, ht]
    · rw [hs, ht]
      rfl
  · intro target
    rw [getTarget_of_store, getTarget_of_store, h.territories_eq]
    congr 1
    funext checked
    rcases h.zone zone with ⟨e, hs, ht⟩ | ⟨z, y, hs, ht, hzy⟩
    · rw [hs, ht]
    · rw [hs, ht]
      exact congrArg (fun rows => Item.first (Run.items provider _ rows))
        (hzy.rowsFor_eq checked.name checked.type checked.group)
  · intro z hz
    refine ⟨?_, ?_, ?_, fun b => BucketCursor.pairwise_sets_bucketItems s.reply zone regions b⟩
    · rw [items_all_of_zone hz, flatMap_geoBuckets]
    · intro name hn
      rw [items_named_steady (PoolStore.source_steady s) (PoolStore.reply_zoneExists hz) hn]
      simp only [bucketsOf, List.flatMap_map, BucketCursor.filter_keeps_none]
    · intro name type hn ht
      refine ⟨Bucket.holding_sublist_all _, ?_⟩
      rw [items_typed_steady (PoolStore.source_steady s) (PoolStore.reply_zoneExists hz) hn ht,
        bucketsOf, List.flatMap_map]

/-- The rows of the crowded store, with the last two in the other order. -/
def reorderedRows : List Row := [crowdedRows[0], crowdedRows[2], crowdedRows[1]]

def reorderedStore : PoolStore := .ofHistory <|
  .addZone "z." :: reorderedRows.map (.addRow "z." .ipv4) ++
    [.setTerritories "1" ["BE"], .setTerritories "2" ["US"]]

theorem answers_of_reorderedStore :
    crowdedStore.Rearranged reorderedStore ∧ reorderedStore ≠ crowdedStore ∧
      ((items PoolStore.source "z." ⟨.empty⟩ (.named "a.z.")).run.run reorderedStore).answer =
        ((items PoolStore.source "z." ⟨.empty⟩ (.named "a.z.")).run.run crowdedStore).answer := by
  have hcrowded : crowdedStore.zones = .single "z." ⟨[⟨"a.z.", .geolocation⟩],
      (.ipv4, crowdedRows[0]) :: (.ipv4, crowdedRows[1]) :: [(.ipv4, crowdedRows[2])]⟩ := by
    decide +kernel
  have hreordered : reorderedStore.zones = .single "z." ⟨[⟨"a.z.", .geolocation⟩],
      (.ipv4, crowdedRows[0]) :: (.ipv4, crowdedRows[2]) :: [(.ipv4, crowdedRows[1])]⟩ := by
    decide +kernel
  have hrearranged : crowdedStore.Rearranged reorderedStore := by
    refine ⟨?_, by decide +kernel⟩
    intro zone
    rw [hcrowded, hreordered, Dict.get?_single, Dict.get?_single]
    split
    · exact .some (@PoolZone.rearranged_swap _ [(.ipv4, crowdedRows[0])] [] _ _ (by decide +kernel))
    · exact .none
  refine ⟨hrearranged, by decide +kernel, ?_⟩
  exact (answers_of_rearranged hrearranged "z." ⟨.empty⟩).1 (.named "a.z.")

end Pool

end GeoRouting
