import GeoRouting.Proofs.Pool.Target
import GeoRouting.Proofs.Row.Keys

/-!
# One record set of an identity

A listing of one name and type gives for each group one record set for each stretch of rows that
share a key, in the order of the backend. It never gives one identity twice exactly when the rows
of each key stand together in their group. The backend does not sort the rows of a group, so rows
of one time to live are given as two record sets when a row of another stands between them.
-/

namespace GeoRouting

/-- Whether two record sets have one name, type, time to live and group. -/
structure RoutedRecordSet.SameIdentity (r t : RoutedRecordSet) : Prop where
  name : DomainName.same r.name t.name = true
  type : r.type = t.type
  ttl : r.records.ttl = t.records.ttl
  group : r.geo?.map GeoRoute.group = t.geo?.map GeoRoute.group

namespace RoutedRecordSet

/-- Record sets of one identity share a key when their names differ in case only. -/
theorem SameIdentity.runKey?_eq {r t : RoutedRecordSet} (h : r.SameIdentity t)
    (hname : Text.lower r.name = Text.lower t.name) : r.runKey? = t.runKey? := by
  rw [runKey?, runKey?, h.type, h.ttl, h.group, hname]

theorem sameIdentity_of_runKey? {r t : RoutedRecordSet} (hsome : r.runKey?.isSome)
    (h : r.runKey? = t.runKey?) : r.SameIdentity t := by
  obtain ⟨k, hr⟩ := Option.isSome_iff_exists.mp hsome
  obtain ⟨g, hg, rfl⟩ := Option.map_eq_some_iff.mp hr
  obtain ⟨g', hg', hk⟩ := Option.map_eq_some_iff.mp (h ▸ hr)
  obtain ⟨htype, httl, hname, rfl⟩ := RunKey.mk.inj hk
  have hlower : Text.lower r.name = Text.lower t.name := (String.toList_inj.mp hname).symm
  exact ⟨DomainName.same_iff.mpr (DomainName.key_of_lower hlower), htype.symm, httl.symm,
    hg.trans hg'.symm⟩

/-- A record set has the group of each row that it covers. -/
theorem Covers.exists_group {r : RoutedRecordSet} {row : Row} (h : r.Covers row) :
    ∃ group, r.geo?.map GeoRoute.group = some group ∧ row.groupName? = some group := by
  obtain ⟨g, hg, -⟩ := Option.map_eq_some_iff.mp h.noResponse
  have hgroup := h.group
  rw [hg] at hgroup ⊢
  exact ⟨g.group, rfl, hgroup.symm⟩

/-- Record sets have different keys when those of each group have. -/
theorem nodup_runKeys_iff {sets : List RoutedRecordSet} (hsome : ∀ r ∈ sets, r.runKey?.isSome) :
    (sets.map RoutedRecordSet.runKey?).Nodup ↔
      ∀ group, ((sets.filter (goesTo group)).map RoutedRecordSet.runKey?).Nodup := by
  constructor
  · intro h group
    exact h.sublist (List.filter_sublist.map _)
  · intro h
    rw [List.Nodup, List.pairwise_map, List.pairwise_iff_forall_sublist]
    intro r t hsub hkey
    have hr := hsome r (hsub.subset List.mem_cons_self)
    have hgroup := (sameIdentity_of_runKey? hr hkey).group
    obtain ⟨group, hg⟩ : ∃ group, r.geo?.map GeoRoute.group = some group := by
      rw [runKey?, Option.isSome_map] at hr
      exact Option.isSome_iff_exists.mp hr
    have hpair := hsub.filter (goesTo group)
    rw [List.filter_eq_self.mpr] at hpair
    · have hne := (h group).sublist (hpair.map runKey?)
      rw [List.map_cons, List.map_cons, hkey] at hne
      simp at hne
    · intro x hx
      rw [goesTo, beq_iff_eq]
      rcases List.mem_cons.mp hx with rfl | hx
      · exact hg
      · rw [List.mem_singleton.mp hx, ← hgroup, hg]

end RoutedRecordSet

/-- Rows of one type and group that are spelled alike share a key when they share a time to
live. -/
theorem Row.runKey?_eq_iff_ttl {type group : String} {r s : Row}
    (hr : r.belongs type group = true) (hs : s.belongs type group = true)
    (hname : Text.lower r.name = Text.lower s.name) :
    r.runKey? = s.runKey? ↔ r.ttl = s.ttl := by
  obtain ⟨hrt, hrg⟩ := belongs_iff.mp hr
  obtain ⟨hst, hsg⟩ := belongs_iff.mp hs
  simp [runKey?, hrt, hst, hrg, hsg, hname]

namespace Pool

section
variable {s : PoolStore} {zone : String} {z : PoolZone} {regions : RegionTable}
  {name type : String}

/-- For a type that is not the alias type, what is listed for a group is made of its rows. -/
theorem items_rowsFor (hz : s.zone zone = .ok z) (hn : Text.isBlank name = false)
    (ht : Text.isBlank type = false) (halias : Text.upper type ≠ Bucket.aliasType)
    {sets : List RoutedRecordSet}
    (h : ((items PoolStore.source zone regions (.typed name type)).run.run s).answer =
      .ok (sets.map .ok)) (group : String) :
    Run.items provider (territories s.reply regions) (z.rowsFor name (Text.upper type) group) =
      (sets.filter (RoutedRecordSet.goesTo group)).map .ok := by
  obtain ⟨own, rfl, hown⟩ := exists_own_of_items_typed hz hn ht h
  rw [PoolZone.rowsFor]
  rw [Bucket.holding_of_ne halias] at hown ⊢
  cases hb : Bucket.ofType? (Text.upper type) with
  | none => rfl
  | some b =>
    rw [hb] at hown
    rw [Option.toList_some, List.flatMap_singleton, List.flatMap_singleton]
    exact hown b List.mem_cons_self group

/-- A record set that is listed covers a row of its group. -/
theorem exists_covers_rowsFor (hz : s.zone zone = .ok z) (hn : Text.isBlank name = false)
    (ht : Text.isBlank type = false) {listed : List Item}
    (h : ((items PoolStore.source zone regions (.typed name type)).run.run s).answer = .ok listed)
    {r : RoutedRecordSet} (hr : .ok r ∈ listed) :
    ∃ group, r.geo?.map GeoRoute.group = some group ∧
      ∃ row ∈ z.rowsFor name (Text.upper type) group, r.Covers row := by
  obtain ⟨b, hb, row, hrow, htype, hcovers⟩ := exists_covers_of_items_typed hz hn ht h hr
  obtain ⟨group, hset, hgroup⟩ := hcovers.exists_group
  exact ⟨group, hset, row,
    PoolZone.mem_rowsFor.mpr ⟨⟨b, hb, hrow⟩, Row.belongs_iff.mpr ⟨htype, hgroup⟩⟩, hcovers⟩

/-- A listing of one name and type gives for each group one record set for each stretch of rows
that share a key. It gives no key twice exactly when the rows of each key stand together, and for
rows that are spelled alike no identity twice exactly when those of each time to live do. -/
theorem items_typed_identities (hz : s.zone zone = .ok z) (hn : Text.isBlank name = false)
    (ht : Text.isBlank type = false) (halias : Text.upper type ≠ Bucket.aliasType)
    {sets : List RoutedRecordSet}
    (h : ((items PoolStore.source zone regions (.typed name type)).run.run s).answer =
      .ok (sets.map .ok)) :
    let rows := z.rowsFor name (Text.upper type)
    (∀ group, (sets.filter (RoutedRecordSet.goesTo group)).map RoutedRecordSet.runKey? =
      ((rows group).map Row.runKey?).destutter (· ≠ ·)) ∧
    ((sets.map RoutedRecordSet.runKey?).Nodup ↔
      ∀ group, StandTogether Row.runKey? (rows group)) ∧
    ((∀ group, ∀ r ∈ rows group, ∀ t ∈ rows group, Text.lower r.name = Text.lower t.name) →
      ((sets.Pairwise fun r t => ¬ r.SameIdentity t) ↔
        ∀ group, StandTogether Row.ttl (rows group))) := by
  intro rows
  have hitems := items_rowsFor hz hn ht halias h
  have hcovered : ∀ r ∈ sets, ∃ group, r.geo?.map GeoRoute.group = some group ∧
      ∃ row ∈ rows group, r.Covers row := fun r hr =>
    exists_covers_rowsFor hz hn ht h (List.mem_map_of_mem hr)
  have hsome : ∀ r ∈ sets, r.runKey?.isSome := by
    intro r hr
    obtain ⟨group, hset, -⟩ := hcovered r hr
    rw [RoutedRecordSet.runKey?, hset]
    rfl
  have hkeys : (sets.map RoutedRecordSet.runKey?).Nodup ↔
      ∀ group, StandTogether Row.runKey? (rows group) := by
    rw [RoutedRecordSet.nodup_runKeys_iff hsome]
    exact forall_congr' fun group => Run.nodup_keys_iff (hitems group)
  refine ⟨fun group => Run.keys_of_items (hitems group), hkeys, fun hspelled => ?_⟩
  have hrows : ∀ group, StandTogether Row.runKey? (rows group) ↔
      StandTogether Row.ttl (rows group) := by
    intro group
    apply standTogether_congr
    intro r hr t ht'
    exact Row.runKey?_eq_iff_ttl (PoolZone.mem_rowsFor.mp hr).2 (PoolZone.mem_rowsFor.mp ht').2
      (hspelled group r hr t ht')
  have hidentity : ∀ r ∈ sets, ∀ t ∈ sets, r.SameIdentity t ↔ r.runKey? = t.runKey? := by
    intro r hr t ht'
    refine ⟨fun hsame => hsame.runKey?_eq ?_, RoutedRecordSet.sameIdentity_of_runKey? (hsome r hr)⟩
    obtain ⟨group, hgroup, x, hx, hxr⟩ := hcovered r hr
    obtain ⟨group', hgroup', y, hy, hyt⟩ := hcovered t ht'
    obtain rfl : group = group' := Option.some.inj (hgroup.symm.trans (hsame.group.trans hgroup'))
    rw [hxr.name, hyt.name, hspelled group x hx y hy]
  rw [← forall_congr' hrows, ← hkeys, List.Nodup, List.pairwise_map]
  exact List.Pairwise.iff_of_mem fun hr ht' => not_congr (hidentity _ hr _ ht')

/-- What is listed of a bucket whose rows tie when they are sorted. -/
theorem items_typed_of_tied (hz : s.zone zone = .ok z) (hn : Text.isBlank name = false)
    (ht : Text.isBlank type = false) {b : Bucket}
    (hb : Bucket.holding (Text.upper type) = [b])
    (htie : (z.rowsOf name b).Pairwise fun r s => r.precedes s = true) :
    ((items PoolStore.source zone regions (.typed name type)).run.run s).answer =
      .ok (Item.upToError ((Item.upToError (Run.items provider (territories s.reply regions)
        (z.rowsOf name b))).filter (BucketCursor.keeps (some (Text.upper type))))) := by
  have hsort : Row.sort (z.rowsOf name b) = z.rowsOf name b := List.mergeSort_of_pairwise htie
  rw [items_typed_steady (PoolStore.source_steady s) (PoolStore.reply_zoneExists hz) hn ht, hb,
    bucketsOf, List.map_singleton, List.flatMap_singleton, PoolStore.bucketItems_of_zone hz, hsort]

end

def stretchRow (name : String) (ttl : UInt32) (address : String) : Row :=
  { name, type := "A", ttl := some ttl, values := [address], geoGroup := some ⟨"1", "eu"⟩ }

/-- A store of some rows of one group, in one bucket. -/
def stretchStore (rows : List Row) : PoolStore := .ofHistory <|
  .addZone "z." :: rows.map (.addRow "z." .ipv4) ++ [.setTerritories "1" ["BE"]]

def stretchSet (name : String) (ttl : UInt32) (addresses : List String) : RoutedRecordSet :=
  ⟨⟨name, "A", some ttl, addresses.map fun a => .single "address" (.text a)⟩,
    .single Route.geoKind (.geo ⟨"eu", ["BE"], false⟩)⟩

/-- The rows of one time to live stand together. -/
def steadyRows : List Row :=
  [stretchRow "a.z." 60 "192.0.2.1", stretchRow "A.z." 60 "192.0.2.2",
    stretchRow "a.z." 90 "192.0.2.3"]

def steadySets : List RoutedRecordSet :=
  [stretchSet "a.z." 60 ["192.0.2.1", "192.0.2.2"], stretchSet "a.z." 90 ["192.0.2.3"]]

theorem items_typed_identities_of_steadyRows :
    ∃ z, (stretchStore steadyRows).zone "z." = .ok z ∧
      Text.isBlank "a.z." = false ∧ Text.isBlank "a" = false ∧
      Text.upper "a" ≠ Bucket.aliasType ∧
      ((items PoolStore.source "z." ⟨.empty⟩ (.typed "a.z." "a")).run.run
          (stretchStore steadyRows)).answer = .ok (steadySets.map .ok) ∧
      steadySets.Pairwise fun r t => ¬ r.SameIdentity t := by
  obtain ⟨z, hz⟩ : ∃ z, (stretchStore steadyRows).zone "z." = .ok z := ⟨_, rfl⟩
  have hn : Text.isBlank "a.z." = false := by decide +kernel
  have ht : Text.isBlank "a" = false := by decide +kernel
  have halias : Text.upper "a" ≠ Bucket.aliasType := by decide +kernel
  have hholding : Bucket.holding (Text.upper "a") = [.ipv4] := by decide +kernel
  have hrows : z.rowsOf "a.z." .ipv4 = steadyRows := by
    cases hz
    decide +kernel
  have hlisted : ((items PoolStore.source "z." ⟨.empty⟩ (.typed "a.z." "a")).run.run
      (stretchStore steadyRows)).answer = .ok (steadySets.map .ok) := by
    rw [items_typed_of_tied hz hn ht hholding (hrows ▸ by decide +kernel), hrows]
    decide +kernel
  obtain ⟨-, -, hidentities⟩ := items_typed_identities hz hn ht halias hlisted
  have hfor : ∀ group, z.rowsFor "a.z." (Text.upper "a") group =
      steadyRows.filter (Row.belongs (Text.upper "a") group) := by
    intro group
    rw [PoolZone.rowsFor, hholding, List.flatMap_singleton, hrows]
  simp only [hfor] at hidentities
  have hgroup : ∀ r ∈ steadyRows, r.groupName? = some "eu" := by decide +kernel
  have hspelled : ∀ r ∈ steadyRows, Text.lower r.name = "a.z." := by decide +kernel
  have htogether : StandTogether Row.ttl
      (steadyRows.filter (Row.belongs (Text.upper "a") "eu")) := by
    rw [List.filter_eq_self.mpr (by decide +kernel)]
    exact List.triplewise_triple.mpr fun httl => absurd httl (by decide +kernel)
  have hpairwise : steadySets.Pairwise fun r t => ¬ r.SameIdentity t := by
    refine (hidentities fun group r hr t ht' => ?_).mpr fun group => ?_
    · rw [hspelled r (List.mem_filter.mp hr).1, hspelled t (List.mem_filter.mp ht').1]
    · by_cases hg : group = "eu"
      · exact hg ▸ htogether
      · rw [List.filter_eq_nil_iff.mpr fun r hr hb => hg (Option.some.inj
          ((Row.belongs_iff.mp hb).2.symm.trans (hgroup r hr)))]
        exact .nil
  exact ⟨z, hz, hn, ht, halias, hlisted, hpairwise⟩

/-- A row of another time to live between two rows, and two rows whose names differ in the dot at
the end, give one identity twice. -/
theorem identities_repeat :
    (((items PoolStore.source "z." ⟨.empty⟩ (.typed "a.z." "A")).run.run
        (stretchStore [stretchRow "a.z." 60 "192.0.2.1", stretchRow "a.z." 90 "192.0.2.2",
          stretchRow "a.z." 60 "192.0.2.3"])).answer =
        .ok ([stretchSet "a.z." 60 ["192.0.2.1"], stretchSet "a.z." 90 ["192.0.2.2"],
          stretchSet "a.z." 60 ["192.0.2.3"]].map .ok) ∧
      (stretchSet "a.z." 60 ["192.0.2.1"]).SameIdentity (stretchSet "a.z." 60 ["192.0.2.3"])) ∧
    ((items PoolStore.source "z." ⟨.empty⟩ (.typed "a.z." "A")).run.run
        (stretchStore [stretchRow "a.z." 60 "192.0.2.1", stretchRow "a.z" 60 "192.0.2.2"])).answer =
        .ok ([stretchSet "a.z." 60 ["192.0.2.1"], stretchSet "a.z" 60 ["192.0.2.2"]].map .ok) ∧
      (stretchSet "a.z." 60 ["192.0.2.1"]).SameIdentity (stretchSet "a.z" 60 ["192.0.2.2"]) := by
  have hn : Text.isBlank "a.z." = false := by decide +kernel
  have ht : Text.isBlank "A" = false := by decide +kernel
  have hholding : Bucket.holding (Text.upper "A") = [.ipv4] := by decide +kernel
  refine ⟨⟨?_, by decide +kernel, rfl, rfl, rfl⟩, ?_, by decide +kernel, rfl, rfl, rfl⟩
  · rw [items_typed_of_tied rfl hn ht hholding (by decide +kernel)]
    decide +kernel
  · rw [items_typed_of_tied rfl hn ht hholding (by decide +kernel)]
    decide +kernel

end Pool

end GeoRouting
