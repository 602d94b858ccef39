import GeoRouting.Proofs.Pool.ListingItems

/-!
# Listing a zone pool by pool

Over a backend whose data does not change, listing a zone gives what its pools give one by one:
for each pool that chooses by location, in order, the items of the listing of its name, cut after
the first error.
-/

namespace GeoRouting.Pool

section
variable {σ : Type} {source : PoolSource σ} {data : (c : PoolCall) → Except GeoError c.Reply}
  {s : σ} {zone : String}

/-- Listing all record sets gives the items of each pool that chooses by location, as a listing
of its name gives them, up to the first error. -/
theorem items_all_of_named (hs : source.Steady data s) (hz : data (.zoneExists zone) = .ok true)
    {pools : List Pool} (hp : data (.pools zone) = .ok pools)
    (hn : ∀ p ∈ pools, p.kind = .geolocation → Text.isBlank p.name = false)
    (regions : RegionTable) :
    ∃ own : Pool → List Item,
      (∀ p ∈ pools, p.kind = .geolocation → ∀ t, source.Steady data t →
        ((items source zone regions (.named p.name)).run.run t).answer = .ok (own p)) ∧
      ((items source zone regions .all).run.run s).answer =
        .ok (Item.upToError ((pools.filter fun p => p.kind = .geolocation).flatMap own)) := by
  refine ⟨fun p => Item.upToError ((bucketsOf Bucket.all p.name).flatMap fun b =>
    (BucketCursor.bucketItems data zone regions b).filter (BucketCursor.keeps none)), ?_, ?_⟩
  · intro p hmem hkind t ht
    exact items_named_steady ht hz (hn p hmem hkind)
  · have hc : Selection.all.check provider = .ok .all := rfl
    rw [items_steady hs hz hc, planned, hp, Item.upToError_flatMap, ← List.flatMap_assoc]
    rfl

end

/-- Two pools that route to one group, and one that does not choose by location. -/
def sharedStore : PoolStore := .ofHistory
  [.addZone "z.", .addPool "z." ⟨"pin.z.", .sourceIp⟩,
    .addRow "z." .ipv4
      { name := "a.z.", type := "A", ttl := some 60, values := ["192.0.2.1"],
        geoGroup := some ⟨"1", "eu"⟩ },
    .addRow "z." .ipv6
      { name := "b.z.", type := "AAAA", ttl := some 60, values := ["2001:db8::1"],
        geoGroup := some ⟨"1", "eu"⟩ },
    .setTerritories "1" ["Europe"]]

theorem items_all_of_sharedStore :
    PoolStore.source.Steady sharedStore.reply sharedStore ∧
      sharedStore.reply (.zoneExists "z.") = .ok true ∧
      sharedStore.reply (.pools "z.") =
        .ok [⟨"pin.z.", .sourceIp⟩, ⟨"a.z.", .geolocation⟩, ⟨"b.z.", .geolocation⟩] ∧
      Text.isBlank "a.z." = false ∧ Text.isBlank "b.z." = false ∧
      ((items PoolStore.source "z." ⟨.single "Europe" ["Albania", "Andorra"]⟩ .all).run.run
          sharedStore).answer =
        .ok [.ok ⟨⟨"a.z.", "A", some 60, [.single "address" (.text "192.0.2.1")]⟩,
            .single "geo" (.geo ⟨"eu", ["Albania", "Andorra"], false⟩)⟩,
          .ok ⟨⟨"b.z.", "AAAA", some 60, [.single "address" (.text "2001:db8::1")]⟩,
            .single "geo" (.geo ⟨"eu", ["Albania", "Andorra"], false⟩)⟩] := by
  have hs := PoolStore.source_steady sharedStore
  have hz : sharedStore.reply (.zoneExists "z.") = .ok true := rfl
  have hp : sharedStore.reply (.pools "z.") =
      .ok [⟨"pin.z.", .sourceIp⟩, ⟨"a.z.", .geolocation⟩, ⟨"b.z.", .geolocation⟩] := by
    decide +kernel
  have hna : Text.isBlank "a.z." = false := by decide +kernel
  have hnb : Text.isBlank "b.z." = false := by decide +kernel
  refine ⟨hs, hz, hp, hna, hnb, ?_⟩
  obtain ⟨own, hown, hall⟩ := items_all_of_named hs hz hp (by decide +kernel)
    ⟨.single "Europe" ["Albania", "Andorra"]⟩
  have ha := hown ⟨"a.z.", .geolocation⟩ (by decide) rfl sharedStore hs
  have hb := hown ⟨"b.z.", .geolocation⟩ (by decide) rfl sharedStore hs
  rw [items_named_steady hs hz hna] at ha
  rw [items_named_steady hs hz hnb] at hb
  rw [hall]
  change Except.ok (Item.upToError (own ⟨"a.z.", .geolocation⟩ ++
    (own ⟨"b.z.", .geolocation⟩ ++ []))) = _
  rw [← Except.ok.inj ha, ← Except.ok.inj hb]
  decide +kernel

end GeoRouting.Pool
