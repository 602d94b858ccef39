import GeoRouting.Proofs.RecordStore.Listing

/-!
# Regions of a record store

The regions of a zone are the groups of its geographic routes. A group has the territories that its
routes name, and each of them stands where it was named first. Routes to other groups that come in
between make no difference, and neither does a route that names nothing new.
-/

namespace GeoRouting

/-! ## First mentions -/

/-- Adds a territory unless it is known already. -/
def withTerritory (ts : List String) (t : String) : List String :=
  if ts.contains t then ts else ts ++ [t]

theorem mem_withTerritory {ts : List String} {t u : String} :
    u ∈ withTerritory ts t ↔ u ∈ ts ∨ u = t := by
  rw [withTerritory]
  by_cases ht : t ∈ ts
  · rw [if_pos (List.contains_iff_mem.mpr ht)]
    exact ⟨.inl, fun h => h.elim id fun hu => hu ▸ ht⟩
  · rw [if_neg (mt List.contains_iff_mem.mp ht), List.mem_append, List.mem_singleton]

theorem mem_foldl_withTerritory {more ts : List String} {u : String} :
    u ∈ more.foldl withTerritory ts ↔ u ∈ ts ∨ u ∈ more := by
  induction more generalizing ts with
  | nil => simp
  | cons t more ih => rw [List.foldl_cons, ih, mem_withTerritory, List.mem_cons, or_assoc]

/-- Adding territories changes nothing when they are all known, and only then. -/
theorem foldl_withTerritory_eq_self {more ts : List String} :
    more.foldl withTerritory ts = ts ↔ ∀ t ∈ more, t ∈ ts := by
  constructor
  · intro h t ht
    rw [← h]
    exact mem_foldl_withTerritory.mpr (.inr ht)
  · intro h
    induction more with
    | nil => rfl
    | cons t more ih =>
      have ht := List.contains_iff_mem.mpr (h t List.mem_cons_self)
      rw [List.foldl_cons, withTerritory, if_pos ht]
      exact ih fun u hu => h u (List.mem_cons_of_mem t hu)

/-- Whether a list has what is named, each once, in the order in which it is first named. -/
structure FirstNamed (named ts : List String) : Prop where
  mem_iff : ∀ t, t ∈ ts ↔ t ∈ named
  ordered : ts.Pairwise fun t u => named.idxOf t < named.idxOf u

namespace FirstNamed
variable {named ts : List String}

theorem nil : FirstNamed [] [] := ⟨fun _ => Iff.rfl, .nil⟩

theorem nodup (h : FirstNamed named ts) : ts.Nodup := by
  refine h.ordered.imp ?_
  rintro t _ hlt rfl
  exact Nat.lt_irrefl _ hlt

/-- One more name goes to the end, unless it is known and keeps its place. -/
theorem push (h : FirstNamed named ts) (t : String) :
    FirstNamed (named ++ [t]) (withTerritory ts t) where
  mem_iff u := by rw [mem_withTerritory, List.mem_append, List.mem_singleton, h.mem_iff]
  ordered := by
    have hkept : ts.Pairwise fun u v => (named ++ [t]).idxOf u < (named ++ [t]).idxOf v := by
      refine h.ordered.imp_of_mem fun {u v} hu hv hlt => ?_
      rwa [List.idxOf_append_of_mem ((h.mem_iff u).mp hu),
        List.idxOf_append_of_mem ((h.mem_iff v).mp hv)]
    rw [withTerritory]
    by_cases ht : t ∈ ts
    · rwa [if_pos (List.contains_iff_mem.mpr ht)]
    · rw [if_neg (mt List.contains_iff_mem.mp ht)]
      refine List.pairwise_append.mpr ⟨hkept, List.pairwise_singleton _ t, ?_⟩
      intro u hu v hv
      have hu' := (h.mem_iff u).mp hu
      rw [List.mem_singleton.mp hv, List.idxOf_append_of_mem hu',
        List.idxOf_append_of_notMem (mt (h.mem_iff t).mpr ht)]
      exact Nat.lt_add_right _ (List.idxOf_lt_length_of_mem hu')

theorem foldl (h : FirstNamed named ts) (more : List String) :
    FirstNamed (named ++ more) (more.foldl withTerritory ts) := by
  induction more generalizing named ts with
  | nil => simpa using h
  | cons t more ih => simpa using ih (h.push t)

end FirstNamed

/-! ## Regions of routes -/

/-- The territories that routes name for a group, as often as they do. -/
def GeoRoute.namedFor (group : String) (routes : List GeoRoute) : List String :=
  (routes.filter fun g => g.group = group).flatMap GeoRoute.territories

theorem GeoRoute.mem_namedFor {group t : String} {routes : List GeoRoute} :
    t ∈ namedFor group routes ↔ ∃ g ∈ routes, g.group = group ∧ t ∈ g.territories := by
  simp [namedFor, and_assoc]

namespace RecordStore

open GeoRoute (namedFor)

theorem get?_addTerritories (regions : Dict (List String)) (g : GeoRoute) (group : String) :
    (addTerritories regions g).get? group =
      if g.group = group then
        some (g.territories.foldl withTerritory ((regions.get? group).getD []))
      else regions.get? group := by
  rw [addTerritories, Dict.get?_insert]
  split
  · rename_i h
    rw [h]
    rfl
  · rfl

/-- Whether a route names no group and no territory that regions do not have. -/
def Covers (regions : Dict (List String)) (g : GeoRoute) : Prop :=
  ∃ ts, regions.get? g.group = some ts ∧ ∀ t ∈ g.territories, t ∈ ts

theorem addTerritories_eq_self {regions : Dict (List String)} {g : GeoRoute} :
    addTerritories regions g = regions ↔ Covers regions g := by
  have hget := get?_addTerritories regions g g.group
  rw [if_pos rfl] at hget
  constructor
  · intro h
    rw [h] at hget
    refine ⟨_, hget, fun t ht => mem_foldl_withTerritory.mpr (.inr ht)⟩
  · rintro ⟨ts, hts, hcovered⟩
    refine Dict.ext_get? fun group => ?_
    rw [get?_addTerritories]
    split
    · rename_i h
      subst h
      rw [hts, Option.getD_some, foldl_withTerritory_eq_self.mpr hcovered]
    · rfl

/-- Whether regions are those of some routes. -/
structure Collects (routes : List GeoRoute) (regions : Dict (List String)) : Prop where
  keys : ∀ group, group ∈ regions.keys ↔ ∃ g ∈ routes, g.group = group
  territories : ∀ {group ts}, regions.get? group = some ts →
    FirstNamed (namedFor group routes) ts

namespace Collects
variable {routes : List GeoRoute} {regions : Dict (List String)}

theorem empty : Collects [] .empty where
  keys group := by simp [Dict.keys, Dict.empty]
  territories h := by simp at h

/-- What is known of a group, nothing if it is no key, is what has been named for it. -/
theorem known (h : Collects routes regions) (group : String) :
    FirstNamed (namedFor group routes) ((regions.get? group).getD []) := by
  cases hts : regions.get? group with
  | some ts => exact h.territories hts
  | none =>
    have hnone : namedFor group routes = [] := by
      refine List.eq_nil_iff_forall_not_mem.mpr fun t ht => ?_
      obtain ⟨g, hg, hgroup, -⟩ := GeoRoute.mem_namedFor.mp ht
      obtain ⟨ts, hsome⟩ := Dict.mem_keys_iff.mp ((h.keys group).mpr ⟨g, hg, hgroup⟩)
      rw [hts] at hsome
      cases hsome
    rw [hnone]
    exact .nil

theorem push (h : Collects routes regions) (g : GeoRoute) :
    Collects (routes ++ [g]) (addTerritories regions g) where
  keys group := by
    have hkeys := h.keys group
    rw [Dict.mem_keys_iff] at hkeys ⊢
    rw [get?_addTerritories]
    by_cases hg : g.group = group
    · simp [hg]
    · simpa [hg] using hkeys
  territories {group ts} hts := by
    rw [get?_addTerritories] at hts
    split at hts
    · rename_i hg
      have hnamed : namedFor group (routes ++ [g]) = namedFor group routes ++ g.territories := by
        simp [namedFor, hg]
      rw [hnamed, ← Option.some.inj hts]
      exact (h.known group).foldl g.territories
    · rename_i hg
      have hnamed : namedFor group (routes ++ [g]) = namedFor group routes := by
        simp [namedFor, hg]
      rw [hnamed]
      exact h.territories hts

theorem foldl (h : Collects routes regions) (more : List GeoRoute) :
    Collects (routes ++ more) (more.foldl addTerritories regions) := by
  induction more generalizing routes regions with
  | nil => simpa using h
  | cons g more ih => simpa using ih (h.push g)

/-- A route that was collected is covered. -/
theorem covers (h : Collects routes regions) {g : GeoRoute} (hg : g ∈ routes) :
    Covers regions g := by
  obtain ⟨ts, hts⟩ := Dict.mem_keys_iff.mp ((h.keys g.group).mpr ⟨g, hg, rfl⟩)
  refine ⟨ts, hts, fun t ht => ?_⟩
  exact ((h.territories hts).mem_iff t).mpr (GeoRoute.mem_namedFor.mpr ⟨g, hg, rfl, ht⟩)

end Collects

/-! ## Regions of a zone -/

/-- The geographic routes of record sets, in their order. -/
def geoRoutes (records : List RoutedRecordSet) : List GeoRoute :=
  records.filterMap RoutedRecordSet.geo?

/-- The regions that a reader of a zone gives. -/
def givenRegions (zone : String) : Query RecordStore (Dict (List String)) := do
  let r ← reader zone
  ExceptT.lift r.regions

theorem run_givenRegions {s : RecordStore} {zone : String} {records : List RoutedRecordSet}
    (hz : s.zones.get? zone = some records) :
    (givenRegions zone).run.run s =
      ⟨.ok ((geoRoutes records).foldl addTerritories .empty), s, []⟩ := by
  obtain ⟨r, hr, -, -, -, hregions⟩ := run_reader hz
  rw [givenRegions, Query.run_bind_ok (congrArg Outcome.answer hr), hr, hregions]
  have hfold : s.regions zone = (geoRoutes records).foldl addTerritories .empty := by
    rw [regions, RecordStore.records, hz]
    rfl
  rw [← hfold]
  rfl

/-- A further put adds the route of its record set. -/
theorem run_givenRegions_put {changes : List Change} {zone : String}
    (hz : (ofHistory changes).containsZone zone = true) (record : RoutedRecordSet) :
    ((givenRegions zone).run.run (ofHistory (changes ++ [.put zone record]))).answer =
      .ok (record.geo?.toList.foldl addTerritories
        ((geoRoutes (accepted zone changes)).foldl addTerritories .empty)) := by
  have hput : (ofHistory (changes ++ [.put zone record])).zones.get? zone =
      some (accepted zone changes ++ [record]) := by
    rw [ofHistory, List.foldl_append, ← ofHistory, List.foldl_cons, List.foldl_nil,
      get?_zones_after, get?_of_containsZone hz]
    simp [putInto]
  rw [run_givenRegions hput, geoRoutes, List.filterMap_append, List.foldl_append]
  cases h : record.geo? <;> simp [geoRoutes, h]

/-- The regions of a zone are the groups that its geographic routes go to, and each has the
territories that any of these routes name, each once, in the order in which they are first named.
Putting a record set leaves them as they are when its route, if it has one, names no new group and
no new territory of its group, and only then; so a record set that is put again does. -/
theorem regions_of_history {changes : List Change} {zone : String}
    (hz : (ofHistory changes).containsZone zone = true) :
    let routes := geoRoutes (accepted zone changes)
    let given (changes : List Change) := (givenRegions zone).run.run (ofHistory changes)
    ∃ regions : Dict (List String),
      given changes = ⟨.ok regions, ofHistory changes, []⟩ ∧
      (∀ group, group ∈ regions.keys ↔ ∃ g ∈ routes, g.group = group) ∧
      (∀ group ts, regions.get? group = some ts →
        (∀ t, t ∈ ts ↔ ∃ g ∈ routes, g.group = group ∧ t ∈ g.territories) ∧ ts.Nodup ∧
        ts.Pairwise fun t u =>
          (namedFor group routes).idxOf t < (namedFor group routes).idxOf u) ∧
      (∀ record : RoutedRecordSet, (given (changes ++ [.put zone record])).answer = .ok regions ↔
        ∀ g ∈ record.geo?, ∃ ts, regions.get? g.group = some ts ∧ ∀ t ∈ g.territories, t ∈ ts) ∧
      ∀ record ∈ accepted zone changes,
        (given (changes ++ [.put zone record])).answer = .ok regions := by
  intro routes given
  have hcollects : Collects routes (routes.foldl addTerritories .empty) := Collects.empty.foldl routes
  have hput : ∀ record : RoutedRecordSet,
      (given (changes ++ [.put zone record])).answer = .ok (routes.foldl addTerritories .empty) ↔
        ∀ g ∈ record.geo?, Covers (routes.foldl addTerritories .empty) g := by
    intro record
    change ((givenRegions zone).run.run _).answer = _ ↔ _
    rw [run_givenRegions_put hz, Except.ok.injEq]
    cases record.geo? with
    | none => exact ⟨fun _ _ hg => absurd hg (Option.not_mem_none _), fun _ => rfl⟩
    | some g => simpa using addTerritories_eq_self
  refine ⟨_, run_givenRegions (get?_of_containsZone hz), hcollects.keys, ?_, hput, ?_⟩
  · intro group ts hts
    have hfirst := hcollects.territories hts
    exact ⟨fun t => (hfirst.mem_iff t).trans GeoRoute.mem_namedFor, hfirst.nodup, hfirst.ordered⟩
  · intro record hrecord
    refine (hput record).mpr fun g hg => hcollects.covers ?_
    exact List.mem_filterMap.mpr ⟨record, hrecord, hg⟩

/-- A record set for some territories of a group. -/
def territorySet (group : String) (territories : List String) : RoutedRecordSet :=
  ⟨⟨"a.z.", "A", none, [.single "address" (.text "192.0.2.1")]⟩,
    .single Route.geoKind (.geo ⟨group, territories, false⟩)⟩

/-- Puts into two groups by turns, one before there is a zone, and into a group of no territory. -/
def interleavedChanges : List Change :=
  [.put "z." (territorySet "early" ["IE"]),
    .addZone "z.",
    .put "z." (territorySet "eu" ["FR", "BE", "FR"]),
    .put "z." (territorySet "us" ["US"]),
    .put "z." (territorySet "eu" ["NL", "BE"]),
    .put "z." (territorySet "none" [])]

theorem regions_of_interleavedChanges :
    let regions := Dict.ofList [("eu", ["FR", "BE", "NL"]), ("none", []), ("us", ["US"])]
    let given (changes : List Change) :=
      ((givenRegions "z.").run.run (ofHistory changes)).answer
    let more (group : String) (territories : List String) :=
      interleavedChanges ++ [.put "z." (territorySet group territories)]
    (ofHistory interleavedChanges).containsZone "z." = true ∧
      given interleavedChanges = .ok regions ∧
      given (more "eu" ["NL", "BE"]) = .ok regions ∧ given (more "eu" ["BE", "FR"]) = .ok regions ∧
      given (more "us" ["BE"]) ≠ .ok regions ∧ given (more "other" []) ≠ .ok regions := by
  intro regions given more
  have hz : (ofHistory interleavedChanges).containsZone "z." = true := by decide +kernel
  obtain ⟨collected, hgiven, -, -, hput, hagain⟩ := regions_of_history hz
  have hregions : given interleavedChanges = .ok regions := by decide +kernel
  obtain rfl : collected = regions :=
    Except.ok.inj ((congrArg Outcome.answer hgiven).symm.trans hregions)
  refine ⟨hz, hregions, hagain _ (by decide +kernel), (hput _).mpr ?_, ?_, ?_⟩
  · rintro g ⟨⟩
    exact ⟨["FR", "BE", "NL"], by decide +kernel, by decide⟩
  · intro h
    obtain ⟨ts, hts, hcovered⟩ := (hput _).mp h ⟨"us", ["BE"], false⟩ rfl
    obtain rfl : ["US"] = ts := Option.some.inj (Eq.trans (by decide +kernel) hts)
    exact absurd (hcovered "BE" (by decide)) (by decide)
  · intro h
    obtain ⟨ts, hts, -⟩ := (hput _).mp h ⟨"other", [], false⟩ rfl
    have hnone : regions.get? "other" = none := by decide +kernel
    cases hnone.symm.trans hts

end RecordStore

end GeoRouting
