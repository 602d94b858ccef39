import GeoRouting.Proofs.Pool.StoredRows
import GeoRouting.Proofs.Row.Joint
import GeoRouting.Proofs.Row.Sorting

/-!
# Looking up the record set of one group

A listing of one name and type groups whole buckets and then leaves out the other types. Getting
one group fetches its rows alone and groups what is there. In a store of pools the two agree for
every type that has one bucket: the first record set listed for the group is the one that is got.

Alias rows are in both address buckets. A listing groups the buckets apart, but getting a group
joins their rows first, so a run that straddles the two buckets is got as it is never listed.
-/

namespace GeoRouting

/-- A listing of one type without an error has left out no error. -/
theorem Item.eq_map_ok_of_kept {items : List Item} {type : String} {kept : List RoutedRecordSet}
    (h : items.filter (BucketCursor.keeps (some type)) = kept.map .ok) :
    ∃ all : List RoutedRecordSet,
      items = all.map .ok ∧ kept = all.filter fun r => r.type == type := by
  have hitems : items = (sets items).map .ok := by
    apply eq_map_ok_of_no_error
    intro e he
    have hk : .error e ∈ items.filter (BucketCursor.keeps (some type)) :=
      List.mem_filter.mpr ⟨he, rfl⟩
    rw [h] at hk
    exact error_notMem_map_ok kept e hk
  refine ⟨sets items, hitems, ?_⟩
  rw [hitems, List.filter_map] at h
  exact ((List.map_inj_right fun _ _ => Except.ok.inj).mp h).symm

/-- What a listing of one type gives for a group is made of the rows of that type and group. -/
theorem Run.items_belonging {provider : String}
    {territories : String → Except GeoError (List String)} {rows : List Row} {type : String}
    {kept : List RoutedRecordSet}
    (h : (Item.upToError (items provider territories (Row.sort rows))).filter
      (BucketCursor.keeps (some type)) = kept.map .ok) (group : String) :
    items provider territories (rows.filter (Row.belongs type group)) =
      (kept.filter (RoutedRecordSet.goesTo group)).map .ok := by
  obtain ⟨all, hall, rfl⟩ := Item.eq_map_ok_of_kept h
  have hsorted := Item.upToError_eq_map_ok.mp hall
  rw [← Row.sort_filter_belongs, Run.items_filter (Row.sort_pairwise rows) hsorted,
    List.filter_filter]
  simp only [Bool.and_comm]

namespace Pool

section
variable {σ : Type} {source : PoolSource σ} {data : (c : PoolCall) → Except GeoError c.Reply}
  {s : σ} {zone : String} {regions : RegionTable}

theorem targetRows_steady (hs : source.Steady data s) {t : Target} {rows : Bucket → List Row}
    (h : ∀ b, data (.groupRows ⟨zone, t.name, b.code, t.group⟩) = .ok (rows b))
    (buckets : List Bucket) :
    let out := (targetRows source zone t buckets).run.run s
    out.answer = .ok (buckets.flatMap rows) ∧ source.Reaches s out.state := by
  induction buckets generalizing s with
  | nil => exact ⟨rfl, Source.reaches_refl s⟩
  | cons b buckets ih =>
    have ha : ((source.ask (.groupRows ⟨zone, t.name, b.code, t.group⟩)).run.run s).answer =
        .ok (rows b) := (hs.answer _).trans (h b)
    have hreach : source.Reaches s (source (.groupRows ⟨zone, t.name, b.code, t.group⟩) s).2 :=
      Source.reaches_call _ s
    obtain ⟨hrest, hreach'⟩ := ih (hs.of_reaches hreach)
    rw [targetRows, Query.run_bind_ok ha, Source.run_ask, Query.run_bind_ok hrest]
    exact ⟨rfl, hreach.trans hreach'⟩

/-- A group is got as the first item that its rows make, bucket after bucket. -/
theorem getTarget_steady (hs : source.Steady data s) (hz : data (.zoneExists zone) = .ok true)
    {t checked : Target} (hc : t.check provider = .ok checked) {rows : Bucket → List Row}
    (h : ∀ b, data (.groupRows ⟨zone, checked.name, b.code, checked.group⟩) = .ok (rows b)) :
    ((getTarget source zone regions t).run.run s).answer =
      Item.first (Run.items provider (territories data regions)
        ((Bucket.holding checked.type).flatMap fun b =>
          (rows b).filter fun r => r.type == checked.type)) := by
  have hcheck : ((Query.ofExcept (t.check provider) : Query σ Target).run.run s).answer =
      .ok checked := hc
  obtain ⟨hzone, hreach⟩ := run_requireZone hs hz
  obtain ⟨hrows, hreach'⟩ :=
    targetRows_steady (hs.of_reaches hreach) h (Bucket.holding checked.type)
  have hload := PoolSource.territories_steady ((hs.of_reaches hreach).of_reaches hreach')
  rw [getTarget, Query.run_bind_ok hcheck, Query.run_ofExcept]
  dsimp only
  rw [Query.run_bind_ok hzone, Query.run_bind_ok hrows, List.filter_flatMap]
  generalize (Bucket.holding checked.type).flatMap _ = members
  obtain ⟨-, -, -, hitem, -⟩ := Grouping.next_steady
    (g := .ofRows provider (some regions) members) hload TerritoryCache.holds_empty
  rw [Grouping.remaining_ofRows, Item.head?_upToError] at hitem
  change _ = (Run.items provider (territories data regions) members).head? at hitem
  have hnext := Query.run_lift (Grouping.next source.territories .empty
    (.ofRows provider (some regions) members))
  rw [Query.run_bind_ok (congrArg Outcome.answer (hnext _))]
  dsimp only
  rw [hitem]
  cases Run.items provider (territories data regions) members with
  | nil => rfl
  | cons item items => cases item <;> rfl

end

/-- What getting a target from a store gives. -/
theorem getTarget_of_store (s : PoolStore) (zone : String) (regions : RegionTable)
    (target : Target) :
    ((getTarget PoolStore.source zone regions target).run.run s).answer =
      (target.check provider).bind fun t => (s.zone zone).bind fun z =>
        Item.first (Run.items provider (territories s.reply regions)
          (z.rowsFor t.name t.type t.group)) := by
  cases hc : target.check provider with
  | error e =>
    rw [getTarget, hc, Query.run_bind_error rfl]
    rfl
  | ok t =>
    cases hz : s.zone zone with
    | error e =>
      have hrequired : ((requireZone PoolStore.source zone).run.run s).answer = .error e := by
        rw [answer_requireZone, hz]
        rfl
      rw [getTarget, hc, Query.run_bind_ok rfl, Query.run_ofExcept]
      dsimp only
      rw [Query.run_bind_error hrequired]
      rfl
    | ok z =>
      rw [getTarget_steady (PoolStore.source_steady s) (PoolStore.reply_zoneExists hz) hc
        (PoolStore.reply_groupRows hz t.name t.group)]
      simp only [List.filter_filter]
      rfl

section
variable {s : PoolStore} {zone : String} {z : PoolZone} {regions : RegionTable}
  {name type group : String}

theorem getTarget_of_zone (hz : s.zone zone = .ok z) (hn : Text.isBlank name = false)
    (ht : Text.isBlank type = false) (hg : Text.isBlank group = false) :
    ((getTarget PoolStore.source zone regions ⟨name, type, group⟩).run.run s).answer =
      Item.first (Run.items provider (territories s.reply regions)
        ((Bucket.holding (Text.upper type)).flatMap fun b =>
          (z.rowsOf name b).filter (Row.belongs (Text.upper type) group))) := by
  rw [getTarget_of_store, Target.check_eq_ok hn ht hg, hz]
  rfl

/-- A listing of one type without an error is made of the rows of its buckets. -/
theorem exists_own_of_items_typed (hz : s.zone zone = .ok z) (hn : Text.isBlank name = false)
    (ht : Text.isBlank type = false) {sets : List RoutedRecordSet}
    (h : ((items PoolStore.source zone regions (.typed name type)).run.run s).answer =
      .ok (sets.map .ok)) :
    ∃ own : Bucket → List RoutedRecordSet,
      sets = (Bucket.holding (Text.upper type)).flatMap own ∧
      ∀ b ∈ Bucket.holding (Text.upper type), ∀ group,
        Run.items provider (territories s.reply regions)
            ((z.rowsOf name b).filter (Row.belongs (Text.upper type) group)) =
          ((own b).filter (RoutedRecordSet.goesTo group)).map .ok := by
  rw [items_typed_steady (PoolStore.source_steady s) (PoolStore.reply_zoneExists hz) hn ht,
    bucketsOf, List.flatMap_map] at h
  have hkept := Item.upToError_eq_map_ok.mp (Except.ok.inj h)
  obtain ⟨own, hsets, hown⟩ := Item.exists_own hkept
  refine ⟨own, hsets, ?_⟩
  intro b hb group
  apply Run.items_belonging
  have hbucket := hown b hb
  rwa [PoolStore.bucketItems_of_zone hz] at hbucket

/-- For a type that is not the alias type, the record set that is got for a group is the first
one listed for it. -/
theorem getTarget_of_items_typed (hz : s.zone zone = .ok z) (hn : Text.isBlank name = false)
    (ht : Text.isBlank type = false) (hg : Text.isBlank group = false)
    (halias : Text.upper type ≠ Bucket.aliasType) {sets : List RoutedRecordSet}
    (h : ((items PoolStore.source zone regions (.typed name type)).run.run s).answer =
      .ok (sets.map .ok)) :
    ((getTarget PoolStore.source zone regions ⟨name, type, group⟩).run.run s).answer =
      .ok (sets.find? (RoutedRecordSet.goesTo group)) := by
  obtain ⟨own, hsets, hown⟩ := exists_own_of_items_typed hz hn ht h
  rw [getTarget_of_zone hz hn ht hg, hsets]
  rw [Bucket.holding_of_ne halias] at hown ⊢
  cases hb : Bucket.ofType? (Text.upper type) with
  | none => rfl
  | some b =>
    rw [hb] at hown
    have hitems := hown b List.mem_cons_self group
    rw [Option.toList_some, List.flatMap_singleton, List.flatMap_singleton, hitems,
      Item.first_map_ok, List.head?_filter]

end

/-- Two groups out of order and an alias, all for one bucket. -/
def crowdedRows : List Row :=
  [{ name := "a.z.", type := "A", ttl := some 60, values := ["192.0.2.2"],
      geoGroup := some ⟨"2", "us"⟩ },
    { name := "A.z", type := "CNAME", ttl := some 60, values := ["one.z."],
      geoGroup := some ⟨"2", "us"⟩ },
    { name := "a.z.", type := "A", ttl := some 60, values := ["192.0.2.1"],
      geoGroup := some ⟨"1", "eu"⟩ }]

def crowdedStore : PoolStore := .ofHistory <|
  .addZone "z." :: crowdedRows.map (.addRow "z." .ipv4) ++
    [.setTerritories "1" ["BE"], .setTerritories "2" ["US"]]

/-- The record set of one address to one group. -/
def addressSet (address group territory : String) : RoutedRecordSet :=
  ⟨⟨"a.z.", "A", some 60, [.single "address" (.text address)]⟩,
    .single Route.geoKind (.geo ⟨group, [territory], false⟩)⟩

theorem getTarget_of_crowdedStore :
    ∃ z, crowdedStore.zone "z." = .ok z ∧
      Text.isBlank "a.z." = false ∧ Text.isBlank "a" = false ∧ Text.isBlank "us" = false ∧
      Text.upper "a" ≠ Bucket.aliasType ∧
      ((items PoolStore.source "z." ⟨.empty⟩ (.typed "a.z." "a")).run.run crowdedStore).answer =
        .ok ([addressSet "192.0.2.1" "eu" "BE", addressSet "192.0.2.2" "us" "US"].map .ok) ∧
      ((getTarget PoolStore.source "z." ⟨.empty⟩ ⟨"a.z.", "a", "us"⟩).run.run
          crowdedStore).answer = .ok (some (addressSet "192.0.2.2" "us" "US")) := by
  obtain ⟨z, hz⟩ : ∃ z, crowdedStore.zone "z." = .ok z := ⟨_, rfl⟩
  have hn : Text.isBlank "a.z." = false := by decide +kernel
  have ht : Text.isBlank "a" = false := by decide +kernel
  have hg : Text.isBlank "us" = false := by decide +kernel
  have halias : Text.upper "a" ≠ Bucket.aliasType := by decide +kernel
  have hlisted : ((items PoolStore.source "z." ⟨.empty⟩ (.typed "a.z." "a")).run.run
      crowdedStore).answer =
      .ok ([addressSet "192.0.2.1" "eu" "BE", addressSet "192.0.2.2" "us" "US"].map .ok) := by
    have hrows : crowdedStore.reply (.rows "z." "a.z." .ipv4) = .ok crowdedRows := by
      decide +kernel
    have hsort : Row.sort crowdedRows =
        [crowdedRows[2], crowdedRows[0], crowdedRows[1]] := by
      apply Row.sort_eq_of_perm
      · decide +kernel
      · decide +kernel
      · decide +kernel
    have hupper : Text.upper "a" = "A" := by decide +kernel
    rw [items_typed_steady (PoolStore.source_steady crowdedStore)
      (PoolStore.reply_zoneExists hz) hn ht, hupper]
    change Except.ok (Item.upToError
      ((BucketCursor.bucketItems crowdedStore.reply "z." ⟨.empty⟩ ("a.z.", .ipv4)).filter
        (BucketCursor.keeps (some "A")) ++ [])) = _
    rw [BucketCursor.bucketItems, hrows]
    dsimp only
    rw [hsort]
    decide +kernel
  refine ⟨z, hz, hn, ht, hg, halias, hlisted, ?_⟩
  rw [getTarget_of_items_typed hz hn ht hg halias hlisted]
  decide +kernel

section
variable {s : PoolStore} {zone : String} {z : PoolZone} {regions : RegionTable}
  {name group : String}

/-- For aliases the same holds exactly when no run of the group straddles the two address
buckets. -/
theorem getTarget_alias_iff (hz : s.zone zone = .ok z) (hn : Text.isBlank name = false)
    (hg : Text.isBlank group = false) {sets : List RoutedRecordSet}
    (h : ((items PoolStore.source zone regions (.typed name Bucket.aliasType)).run.run s).answer =
      .ok (sets.map .ok)) :
    ((getTarget PoolStore.source zone regions ⟨name, Bucket.aliasType, group⟩).run.run s).answer =
        .ok (sets.find? (RoutedRecordSet.goesTo group)) ↔
      ¬ Row.Straddles ((z.rowsOf name .ipv4).filter (Row.belongs Bucket.aliasType group))
        ((z.rowsOf name .ipv6).filter (Row.belongs Bucket.aliasType group)) := by
  have ht : Text.isBlank Bucket.aliasType = false := by decide +kernel
  have hupper : Text.upper Bucket.aliasType = Bucket.aliasType := by decide +kernel
  have hholding : Bucket.holding Bucket.aliasType = [.ipv4, .ipv6] := if_pos rfl
  obtain ⟨own, hsets, hown⟩ := exists_own_of_items_typed hz hn ht h
  rw [hupper, hholding] at hsets hown
  have hipv4 := hown .ipv4 (by decide) group
  have hipv6 := hown .ipv6 (by decide) group
  rw [getTarget_of_zone hz hn ht hg, hupper, hholding, hsets, Item.first_eq_ok,
    ← List.head?_filter]
  simp only [List.flatMap_cons, List.flatMap_nil, List.append_nil, List.filter_append]
  exact Run.head?_items_append hipv4 hipv6

end

/-- An alias in each of the address buckets, to one group; `ttl` is that of the second. -/
def aliasStore (ttl : UInt32) : PoolStore := .ofHistory
  [.addZone "z.",
    .addRow "z." .ipv4
      { name := "a.z.", type := "CNAME", ttl := some 60, values := ["one.z."],
        geoGroup := some ⟨"1", "eu"⟩ },
    .addRow "z." .ipv6
      { name := "a.z.", type := "CNAME", ttl := some ttl, values := ["two.z."],
        geoGroup := some ⟨"1", "eu"⟩ },
    .setTerritories "1" ["BE"]]

/-- A record set of aliases to that group. -/
def aliasSet (ttl : UInt32) (targets : List String) : RoutedRecordSet :=
  ⟨⟨"a.z.", "CNAME", some ttl, targets.map fun t => .single "cname" (.text t)⟩,
    .single Route.geoKind (.geo ⟨"eu", ["BE"], false⟩)⟩

theorem getTarget_alias_of_two_ttls :
    ∃ z, (aliasStore 90).zone "z." = .ok z ∧
      Text.isBlank "a.z." = false ∧ Text.isBlank "eu" = false ∧
      ((items PoolStore.source "z." ⟨.empty⟩ (.typed "a.z." Bucket.aliasType)).run.run
          (aliasStore 90)).answer =
        .ok ([aliasSet 60 ["one.z."], aliasSet 90 ["two.z."]].map .ok) ∧
      ((getTarget PoolStore.source "z." ⟨.empty⟩ ⟨"a.z.", Bucket.aliasType, "eu"⟩).run.run
          (aliasStore 90)).answer = .ok (some (aliasSet 60 ["one.z."])) := by
  obtain ⟨z, hz⟩ : ∃ z, (aliasStore 90).zone "z." = .ok z := ⟨_, rfl⟩
  have hn : Text.isBlank "a.z." = false := by decide +kernel
  have ht : Text.isBlank Bucket.aliasType = false := by decide +kernel
  have hg : Text.isBlank "eu" = false := by decide +kernel
  have hlisted : ((items PoolStore.source "z." ⟨.empty⟩
      (.typed "a.z." Bucket.aliasType)).run.run (aliasStore 90)).answer =
      .ok ([aliasSet 60 ["one.z."], aliasSet 90 ["two.z."]].map .ok) := by
    rw [items_typed_steady (PoolStore.source_steady (aliasStore 90))
      (PoolStore.reply_zoneExists hz) hn ht]
    decide +kernel
  refine ⟨z, hz, hn, hg, hlisted, ?_⟩
  rw [(getTarget_alias_iff hz hn hg hlisted).mpr]
  · decide +kernel
  · cases hz
    decide +kernel

/-- With one time to live the listing gives two record sets, and what is got is neither. -/
theorem getTarget_alias_joins_buckets :
    ((items PoolStore.source "z." ⟨.empty⟩ (.typed "a.z." Bucket.aliasType)).run.run
        (aliasStore 60)).answer =
      .ok ([aliasSet 60 ["one.z."], aliasSet 60 ["two.z."]].map .ok) ∧
      [aliasSet 60 ["one.z."], aliasSet 60 ["two.z."]].find? (RoutedRecordSet.goesTo "eu") =
        some (aliasSet 60 ["one.z."]) ∧
      ((getTarget PoolStore.source "z." ⟨.empty⟩ ⟨"a.z.", Bucket.aliasType, "eu"⟩).run.run
          (aliasStore 60)).answer = .ok (some (aliasSet 60 ["one.z.", "two.z."])) ∧
      aliasSet 60 ["one.z.", "two.z."] ≠ aliasSet 60 ["one.z."] := by
  obtain ⟨z, hz⟩ : ∃ z, (aliasStore 60).zone "z." = .ok z := ⟨_, rfl⟩
  have hn : Text.isBlank "a.z." = false := by decide +kernel
  have ht : Text.isBlank Bucket.aliasType = false := by decide +kernel
  have hg : Text.isBlank "eu" = false := by decide +kernel
  refine ⟨?_, by decide +kernel, ?_, by decide +kernel⟩
  · rw [items_typed_steady (PoolStore.source_steady (aliasStore 60))
      (PoolStore.reply_zoneExists hz) hn ht]
    decide +kernel
  · rw [getTarget_of_zone hz hn ht hg]
    cases hz
    decide +kernel

end Pool

end GeoRouting
