import GeoRouting.Proofs.Pool.Course
import GeoRouting.Proofs.Row.Selecting
import Mathlib.Data.List.Nodup

/-!
# Listings are lazy

A listing stands in a bucket behind some of its runs, and all that it keeps of what is behind it has
been given. So it fetches a bucket when everything in the buckets before has been given, and loads
the territories of a group when it has come to a run whose first row is of that group. The cache has
the groups of the runs behind, so they are loaded once.
-/

namespace GeoRouting

namespace TerritoryCache
variable {cache after : TerritoryCache} {ids more : List String}

/-- Whether some ids, all different, are those that a cache has. -/
def Remembers (cache : TerritoryCache) (ids : List String) : Prop :=
  ids.Nodup ∧ ∀ id, cache.contains id = true ↔ id ∈ ids

theorem remembers_empty : Remembers .empty [] := by
  refine ⟨List.nodup_nil, ?_⟩
  intro id
  simp [Dict.contains_eq_isSome]

theorem Remembers.nodup_append (h : cache.Remembers ids) (hmore : more.Nodup)
    (hnew : ∀ id ∈ more, cache.contains id = false) : (ids ++ more).Nodup := by
  refine List.nodup_append.mpr ⟨h.1, hmore, ?_⟩
  rintro id hid _ hmem rfl
  have hknown := (h.2 id).mpr hid
  rw [hnew id hmem] at hknown
  cases hknown

theorem Remembers.append (h : cache.Remembers ids) (hadds : cache.Adds more after)
    (hn : (ids ++ more).Nodup) : after.Remembers (ids ++ more) := by
  refine ⟨hn, ?_⟩
  intro id
  rw [hadds id, h.2 id, List.mem_append]

end TerritoryCache

namespace Row

theorem goesOn_append (xs : List Row) {ys : List Row} (h : ys ≠ []) (zs : List Row) :
    goesOn (xs ++ ys) zs = goesOn ys zs := by
  rw [goesOn, goesOn, List.getLast?_append_of_ne_nil xs h]

/-- The rows beyond a run do not go on with it. -/
theorem goesOn_beyond (first : Row) (source : List Row) :
    goesOn (first :: first.others source) (first.beyond source) = false := by
  cases h : first.beyond source with
  | nil =>
    rw [goesOn_eq_false]
    intro x _ y hy
    cases hy
  | cons b more =>
    rw [Bool.eq_false_iff]
    intro hgo
    have hsame := sameRun_of_goesOn (fun r hr => sameRun_of_mem_others hr) hgo
    have hhead : b ∈ (first.beyond source).head? := by rw [h]; rfl
    rw [sameRun_of_mem_head?_beyond hhead] at hsame
    cases hsame

end Row

/-- The runs of two pieces that do not go on with each other are built apart. -/
theorem Run.items_append {xs ys : List Row} (h : Row.goesOn xs ys = false) (provider : String)
    (territories : String → Except GeoError (List String)) :
    items provider territories (xs ++ ys) =
      items provider territories xs ++ items provider territories ys := by
  rw [items, Row.runs_append (Row.goesOn_eq_false.mp h), List.filterMap_append]
  rfl

namespace BucketCursor
variable {σ : Type} {source : PoolSource σ} {data : (c : PoolCall) → Except GeoError c.Reply}
  {zone : String} {regions : RegionTable} {cache : TerritoryCache} {c : BucketCursor} {s : σ}
  {b : String × Bucket} {made : List RoutedRecordSet}

theorem nodup_missing (cache : TerritoryCache) (c : BucketCursor) : (c.missing cache).Nodup := by
  cases c with
  | idle => exact List.nodup_nil
  | broken e => exact List.nodup_nil
  | rows g =>
    rw [missing, Grouping.missing]
    split
    · exact List.nodup_nil
    · split
      · exact List.nodup_nil
      · rw [Row.missing]
        split
        · exact List.nodup_nil
        · exact TerritoryCache.nodup_missing cache _

/-- What is loaded is the group of the next row, which the cache does not have. -/
theorem exists_of_mem_missing {id : String} (h : id ∈ c.missing cache) :
    cache.contains id = false ∧ ∃ g first rest, c = .rows g ∧ g.rows.toList = first :: rest ∧
      first.group?.map GroupRef.id = some id := by
  cases c with
  | idle => cases h
  | broken e => cases h
  | rows g =>
    rw [missing, Grouping.missing] at h
    split at h
    · cases h
    · split at h
      · cases h
      · rename_i first rest hnext
        rw [Row.missing] at h
        split at h
        · cases h
        · rename_i group hgroup
          refine ⟨TerritoryCache.not_contains_of_mem_missing h, g, first, rest, rfl,
            RowStream.next?_eq_some.mp hnext, ?_⟩
          rw [hgroup, Option.map_some]
          rw [TerritoryCache.missing] at h
          split at h
          · cases h
          · exact congrArg some (List.mem_singleton.mp h).symm

/-- Where a bucket stands behind runs that have made some record sets: all its rows are behind it or
before it, and no run is on both sides. -/
inductive Within (data : (c : PoolCall) → Except GeoError c.Reply) (zone : String)
    (regions : RegionTable) (b : String × Bucket) :
    List RoutedRecordSet → BucketCursor → Prop
  | rows (earlier : List Row) {g : Grouping} {fetched : List Row} {made : List RoutedRecordSet}
      (answered : data (.rows zone b.1 b.2) = .ok fetched)
      (sorted : Row.sort fetched = earlier ++ g.rows.toList)
      (cut : Row.goesOn earlier g.rows.toList = false)
      (items : Run.items Pool.provider (Pool.territories data regions) earlier = made.map .ok)
      (provider : g.provider = Pool.provider) (unfailed : g.failed = false) :
      Within data zone regions b made (.rows g)
  | broken {e : GeoError} (answered : data (.rows zone b.1 b.2) = .error e) :
      Within data zone regions b [] (.broken e)

theorem within_fetch (hs : source.Steady data s) (zone : String) (regions : RegionTable)
    (b : String × Bucket) :
    ((fetch source zone regions b.1 b.2).run s).answer.Within data zone regions b [] := by
  have ha := hs.answer (.rows zone b.1 b.2)
  rw [fetch]
  simp only [Act.run_bind, Act.run_say, Source.run_ask, ha]
  cases hd : data (.rows zone b.1 b.2) with
  | error e => exact .broken hd
  | ok fetched => exact .rows [] hd rfl rfl rfl rfl rfl

/-- A bucket that is over has made all its record sets. -/
theorem Within.bucketItems_eq (h : c.Within data zone regions b made) (hover : c.Over) :
    bucketItems data zone regions b = made.map .ok := by
  cases h with
  | broken answered => cases hover
  | rows earlier answered sorted cut items provider unfailed =>
    rcases hover with hfailed | hrows
    · rw [unfailed] at hfailed
      cases hfailed
    · rw [hrows, List.append_nil] at sorted
      rw [bucketItems, answered]
      dsimp only
      rw [sorted, items, Item.upToError_eq_map_ok]

/-- The next record set of a bucket is the one that its next run makes. -/
theorem Within.next (h : c.Within data zone regions b made)
    (hsound : c.Sound source data regions cache s) {r : RoutedRecordSet}
    (hr : ((c.next source cache).run s).answer.1 = some (.ok r)) :
    ((c.next source cache).run s).answer.2.2.Within data zone regions b (made ++ [r]) := by
  cases h with
  | broken answered => cases hr
  | @rows earlier g fetched _ answered sorted cut items provider unfailed =>
    cases hrows : g.rows.toList with
    | nil =>
      have hover : (BucketCursor.rows g).Over := .inr hrows
      rw [next_of_over hover] at hr
      cases hr
    | cons first rest =>
      have hterritories : TerritoryCache.resolved g.regions (fun id => data (.territories id)) =
          Pool.territories data regions := by
        rw [show g.regions = some regions from hsound.resolves]
        rfl
      obtain ⟨-, -, hitem, hbeyond⟩ := Run.build_steady
        (PoolSource.territories_steady hsound.steady) (hterritories ▸ hsound.holds) g.provider first
        rest
      have hrun := @Grouping.run_next_of_cons σ source.territories cache g s _ _ unfailed hrows
      rw [BucketCursor.next, Act.run_bind, hrun] at hr ⊢
      have hok := Option.some.inj hr
      rw [hok] at hitem hbeyond
      rw [hrows] at sorted cut
      have hleft := hbeyond rfl
      have hrest := Row.others_append_beyond first rest
      have hothers : Run.items Pool.provider (Pool.territories data regions)
          (first :: first.others rest) = [.ok r] := by
        rw [Run.items, Row.runs_of_sameRun fun _ h => Row.sameRun_of_mem_others h, hitem, provider,
          hterritories]
        rfl
      refine .rows (earlier ++ first :: first.others rest) answered ?_ ?_ ?_ provider ?_
      · rw [sorted, List.append_assoc, List.cons_append, hleft, hrest]
      · rw [hleft, Row.goesOn_append earlier (List.cons_ne_nil _ _)]
        exact Row.goesOn_beyond first rest
      · rw [@Run.items_append earlier (first :: first.others rest) cut, items, hothers,
          List.map_append]
        rfl
      · rw [hok]
        rfl

end BucketCursor

namespace PoolListing
variable {σ : Type} {source : PoolSource σ} {data : (c : PoolCall) → Except GeoError c.Reply}
  {start l m : PoolListing} {given : List RoutedRecordSet} {ids : List String} {s t : σ}

open BucketCursor

/-- What a listing gives of one bucket. -/
def itemsOf (data : (c : PoolCall) → Except GeoError c.Reply) (l : PoolListing)
    (b : String × Bucket) : List Item :=
  (bucketItems data l.zone l.regions b).filter (keeps l.only)

/-- Whether `first` starts a run in one of the buckets of a listing, with `items` all that the
listing gives before it comes to that run. -/
def Starts (data : (c : PoolCall) → Except GeoError c.Reply) (l : PoolListing) (items : List Item)
    (first : Row) : Prop :=
  ∃ (before after : List (String × Bucket)) (b : String × Bucket)
      (fetched earlier later : List Row),
    l.pending = before ++ b :: after ∧ data (.rows l.zone b.1 b.2) = .ok fetched ∧
    Row.sort fetched = earlier ++ first :: later ∧
    Row.runs (Row.sort fetched) = Row.runs earlier ++ Row.runs (first :: later) ∧
    items = before.flatMap (l.itemsOf data) ++
      (Run.items Pool.provider (Pool.territories data l.regions) earlier).filter (keeps l.only)

/-- Where a listing stands that started as `start` and has given some record sets. -/
def Stands (data : (c : PoolCall) → Except GeoError c.Reply) (start : PoolListing)
    (given : List RoutedRecordSet) (l : PoolListing) : Prop :=
  l.cursor = .idle ∧ l.pending = start.pending ∧ given = [] ∨
    ∃ before b made, start.pending = before ++ b :: l.pending ∧
      l.cursor.Within data start.zone start.regions b made ∧
      before.flatMap (start.itemsOf data) ++ (made.map .ok).filter (keeps start.only) =
        given.map .ok

/-- What is known of a listing on its way, while it has given no error. -/
structure Tracks (source : PoolSource σ) (data : (c : PoolCall) → Except GeoError c.Reply)
    (start : PoolListing) (given : List RoutedRecordSet) (ids : List String) (l : PoolListing)
    (s : σ) : Prop where
  zone : l.zone = start.zone
  regions : l.regions = start.regions
  only : l.only = start.only
  stands : Stands data start given l
  sound : l.Sound source data s
  remembers : l.cache.Remembers ids

/-- What a bucket loads next is for the run that it has come to. -/
theorem Tracks.starts (h : Tracks source data start given ids l s) {id : String}
    (hid : id ∈ l.cursor.missing l.cache) :
    ∃ first, start.Starts data (given.map .ok) first ∧ first.group?.map GroupRef.id = some id := by
  obtain ⟨-, g, first, rest, hcursor, hrows, hgroup⟩ := exists_of_mem_missing hid
  refine ⟨first, ?_, hgroup⟩
  rcases h.stands with ⟨hidle, -, -⟩ | ⟨before, b, made, hpending, hwithin, hgiven⟩
  · rw [hidle] at hcursor
    cases hcursor
  · rw [hcursor] at hwithin
    cases hwithin with
    | rows earlier answered sorted cut items provider unfailed =>
      rw [hrows] at sorted cut
      refine ⟨before, l.pending, b, _, earlier, rest, hpending, answered, sorted, ?_, ?_⟩
      · rw [sorted, Row.runs_append (Row.goesOn_eq_false.mp cut)]
      · rw [items]
        exact hgiven.symm

theorem Tracks.nodup_append_missing (h : Tracks source data start given ids l s) :
    (ids ++ l.cursor.missing l.cache).Nodup :=
  h.remembers.nodup_append (nodup_missing l.cache l.cursor) fun _ hid =>
    (exists_of_mem_missing hid).1

/-- The next record set of a bucket is given if it is kept, and is left behind. -/
theorem Tracks.next (h : Tracks source data start given ids l s) {r : RoutedRecordSet}
    (hr : ((l.cursor.next source l.cache).run s).answer.1 = some (.ok r)) :
    Tracks source data start (given ++ [r].filter fun r => keeps start.only (.ok r))
      (ids ++ l.cursor.missing l.cache)
      { l with
        cache := ((l.cursor.next source l.cache).run s).answer.2.1
        cursor := ((l.cursor.next source l.cache).run s).answer.2.2 }
      ((l.cursor.next source l.cache).run s).state where
  zone := h.zone
  regions := h.regions
  only := h.only
  sound := (BucketCursor.next_sound h.sound).1
  remembers := h.remembers.append (adds_of_next hr) h.nodup_append_missing
  stands := by
    rcases h.stands with ⟨hidle, -, -⟩ | ⟨before, b, made, hpending, hwithin, hgiven⟩
    · rw [hidle] at hr
      cases hr
    · refine .inr ⟨before, b, made ++ [r], hpending, ?_, ?_⟩
      · apply hwithin.next _ hr
        rw [← h.regions]
        exact h.sound
      · rw [List.map_append, List.filter_append, ← List.append_assoc, hgiven, List.filter_map,
          List.map_append]
        rfl

/-- A bucket is fetched when everything in the buckets before has been given. -/
theorem Tracks.given_of_over (h : Tracks source data start given ids l s) (hover : l.cursor.Over) :
    ∃ before, start.pending = before ++ l.pending ∧
      before.flatMap (start.itemsOf data) = given.map .ok := by
  rcases h.stands with ⟨-, hpending, rfl⟩ | ⟨before, b, made, hpending, hwithin, hgiven⟩
  · exact ⟨[], hpending.symm, rfl⟩
  · refine ⟨before ++ [b], ?_, ?_⟩
    · rw [hpending, List.append_assoc]
      rfl
    · rw [List.flatMap_append, List.flatMap_singleton, itemsOf, hwithin.bucketItems_eq hover,
        hgiven]

theorem Tracks.turn (h : Tracks source data start given ids l s) (hover : l.cursor.Over)
    {b : String × Bucket} {pending : List (String × Bucket)} (hp : l.pending = b :: pending) :
    Tracks source data start given ids
      { l with cursor := ((fetch source l.zone l.regions b.1 b.2).run s).answer, pending }
      ((fetch source l.zone l.regions b.1 b.2).run s).state where
  zone := h.zone
  regions := h.regions
  only := h.only
  sound := (fetch_sound h.sound.steady h.sound.holds l.zone b).1
  remembers := h.remembers
  stands := by
    obtain ⟨before, hpending, hgiven⟩ := h.given_of_over hover
    refine .inr ⟨before, b, [], ?_, ?_, ?_⟩
    · rw [hpending, hp]
    · rw [← h.zone, ← h.regions]
      exact within_fetch h.sound.steady l.zone l.regions b
    · rw [List.map_nil, List.filter_nil, List.append_nil, hgiven]

/-- What is asked for on the way to the next item: territories of runs that the listing has come to,
and buckets before which everything has been given. -/
structure Asks (data : (c : PoolCall) → Except GeoError c.Reply) (start : PoolListing)
    (given : List RoutedRecordSet) (l : PoolListing) (calls : List PoolCall) (m : PoolListing) :
    Prop where
  loads : ∀ id ∈ PoolCall.loads calls, ∃ first, start.Starts data (given.map .ok) first ∧
    first.group?.map GroupRef.id = some id
  fetches : ∀ i, start.pending.length - l.pending.length ≤ i →
    i < start.pending.length - m.pending.length →
    (start.pending.take i).flatMap (start.itemsOf data) = given.map .ok

theorem Tracks.of_skips {calls : List PoolCall} (hskips : Skips source l s calls m t)
    (h : Tracks source data start given ids l s) :
    Tracks source data start given (ids ++ PoolCall.loads calls) m t ∧
      Asks data start given l calls m := by
  induction hskips generalizing ids with
  | stay l s =>
    refine ⟨(List.append_nil ids).symm ▸ h, ?_, ?_⟩
    · intro id hid
      cases hid
    · intro i hl hm
      omega
  | @drop l m s t calls item hitem unkept _ ih =>
    cases item with
    | error e => cases unkept
    | ok r =>
      have hnext := h.next hitem
      rw [List.filter_singleton, ← h.only, unkept] at hnext
      rw [cond_false, List.append_nil] at hnext
      obtain ⟨htracks, hloads, hfetches⟩ := ih hnext
      rw [PoolCall.loads_append, PoolCall.loads_territories, ← List.append_assoc]
      refine ⟨htracks, ?_, hfetches⟩
      intro id hid
      rw [PoolCall.loads_append, PoolCall.loads_territories] at hid
      rcases List.mem_append.mp hid with hid | hid
      · exact h.starts hid
      · exact hloads id hid
  | @turn l m s t calls b pending hover hp _ ih =>
    obtain ⟨htracks, hloads, hfetches⟩ := ih (h.turn hover hp)
    refine ⟨htracks, hloads, ?_⟩
    intro i hl hm
    obtain ⟨before, hpending, hgiven⟩ := h.given_of_over hover
    rw [hp] at hl hpending
    rcases Nat.eq_or_lt_of_le hl with hi | hi
    · have hbefore : start.pending.take i = before := by
        rw [hpending, ← hi, hpending, List.length_append, Nat.add_sub_cancel, List.take_left]
      rw [hbefore, hgiven]
    · apply hfetches i _ hm
      rw [List.length_cons] at hi
      dsimp only
      omega

/-- A pull asks for what it needs to find the next item, and the listing that it leaves has given
that item as well. -/
theorem Tracks.pull (h : Tracks source data start given ids l s) (hf : l.failed = false) :
    let out := (PoolListing.next source l).run s
    ∃ calls, out.state = source.after calls s ∧ (ids ++ PoolCall.loads calls).Nodup ∧
      Asks data start given l calls out.answer.2 ∧
      ∀ r, out.answer.1 = some (.ok r) → out.answer.2.failed = false ∧
        Tracks source data start (given ++ [r]) (ids ++ PoolCall.loads calls) out.answer.2
          out.state := by
  intro out
  obtain ⟨calls, m, t, hskips, hstate, hitem, hlisting, -, hkept⟩ :=
    exists_skips_of_advance source l l.cache l.cursor l.pending s
  obtain ⟨htracks, hloads, hfetches⟩ := h.of_skips hskips
  have hout : out = _ := next_of_not_failed hf s
  dsimp only at hout
  have hids : ids ++ PoolCall.loads (calls ++ (m.cursor.missing m.cache).map .territories) =
      ids ++ PoolCall.loads calls ++ m.cursor.missing m.cache := by
    rw [PoolCall.loads_append, PoolCall.loads_territories, List.append_assoc]
  refine ⟨calls ++ (m.cursor.missing m.cache).map .territories, ?_, ?_, ⟨?_, ?_⟩, ?_⟩
  · rw [hout, hstate, state_next, hskips.state_eq, ← Source.after_append]
  · rw [hids]
    exact htracks.nodup_append_missing
  · intro id hid
    rw [PoolCall.loads_append, PoolCall.loads_territories] at hid
    rcases List.mem_append.mp hid with hid | hid
    · exact hloads id hid
    · exact htracks.starts hid
  · rw [hout, hlisting]
    exact hfetches
  · intro r hr
    rw [hout] at hr ⊢
    dsimp only at hr ⊢
    rw [hr] at hkept
    rw [hlisting, hids, hstate, hr]
    rw [hitem] at hr
    refine ⟨rfl, ?_⟩
    have hnext := htracks.next hr
    have hkeep : keeps start.only (.ok r) = true := by
      rw [← h.only]
      exact hkept _ rfl
    rw [List.filter_singleton, hkeep] at hnext
    exact { hnext with }

/-- While pulls give record sets, the listing is on its way and all that it has loaded was for runs
that it had come to. -/
theorem Tracks.of_given (h : Tracks source data start [] [] start s) (hf : start.failed = false)
    {k : Nat} {sets : List RoutedRecordSet}
    (hk : (List.range k).map (Item.given (PoolListing.next source) start s) =
      sets.map fun r => some (.ok r)) :
    let p := Item.reached (PoolListing.next source) start s k
    p.1.failed = false ∧ ∃ calls, p.2 = source.after calls s ∧
      Tracks source data start sets (PoolCall.loads calls) p.1 p.2 ∧
      ∀ id ∈ PoolCall.loads calls, ∃ first items, start.Starts data items first ∧
        items <+: sets.map .ok ∧ first.group?.map GroupRef.id = some id := by
  induction k generalizing sets with
  | zero =>
    rw [List.map_eq_nil_iff.mp hk.symm]
    refine ⟨hf, [], rfl, h, ?_⟩
    intro id hid
    cases hid
  | succ k ih =>
    rw [List.range_succ, List.map_append] at hk
    obtain ⟨before, last, rfl, hbefore, hlast⟩ := List.map_eq_append_iff.mp hk.symm
    obtain ⟨r, rfl, hr⟩ := List.map_eq_singleton_iff.mp hlast
    obtain ⟨hfailed, calls, hstate, htracks, hreached⟩ := ih hbefore.symm
    obtain ⟨more, hstate', -, ⟨hloads, -⟩, hnext⟩ := htracks.pull hfailed
    obtain ⟨hfailed', htracks'⟩ := hnext r hr.symm
    refine ⟨hfailed', calls ++ more, ?_, ?_, ?_⟩
    · rw [Source.after_append, ← hstate]
      exact hstate'
    · rw [PoolCall.loads_append]
      exact htracks'
    · intro id hid
      rw [List.map_append]
      rw [PoolCall.loads_append] at hid
      rcases List.mem_append.mp hid with hid | hid
      · obtain ⟨first, items, hstarts, hitems, hgroup⟩ := hreached id hid
        exact ⟨first, items, hstarts, hitems.trans (List.prefix_append _ _), hgroup⟩
      · obtain ⟨first, hstarts, hgroup⟩ := hloads id hid
        exact ⟨first, _, hstarts, List.prefix_append _ _, hgroup⟩

end PoolListing

namespace Pool
variable {σ : Type} {source : PoolSource σ} {data : (c : PoolCall) → Except GeoError c.Reply}
  {zone : String} {regions : RegionTable} {selection : Selection} {s : σ} {l : PoolListing}

/-- A listing that is handed out is the one that its selection plans. -/
theorem exists_planned_of_list (hs : source.Steady data s)
    (hl : ((list source zone regions selection).run.run s).answer = .ok l) :
    ∃ checked, selection.check provider = .ok checked ∧
      planned data zone regions checked = .ok l := by
  cases hc : selection.check provider with
  | error e =>
    rw [list, hc, Query.run_bind_error rfl] at hl
    cases hl
  | ok checked =>
    have hz : data (.zoneExists zone) = .ok true := by
      rw [list, hc, Query.run_bind_ok rfl, Query.run_ofExcept] at hl
      obtain ⟨_, hrequired, -⟩ := Query.bind_eq_ok.mp hl
      obtain ⟨found, hfound, hrest⟩ := Query.bind_eq_ok.mp hrequired
      rw [Source.run_ask, hs.answer] at hfound
      cases found with
      | true => exact hfound
      | false => cases hrest
    refine ⟨checked, rfl, ?_⟩
    rw [← (list_steady hs hz hc regions).1]
    exact hl

theorem nodup_bucketsOf {buckets : List Bucket} (h : buckets.Nodup) (name : String) :
    (bucketsOf buckets name).Nodup :=
  List.Nodup.map (fun _ _ hb => congrArg Prod.snd hb) h

/-- No bucket is planned twice when the pools have different names. -/
theorem nodup_planned (h : planned data zone regions selection = .ok l)
    (hnames : ∀ pools, selection = .all → data (.pools zone) = .ok pools →
      (pools.map Pool.name).Nodup) : l.pending.Nodup := by
  cases selection with
  | named name =>
    cases h
    exact nodup_bucketsOf (by decide) name
  | typed name type =>
    cases h
    apply nodup_bucketsOf
    rw [Bucket.holding_eq]
    split <;> decide
  | all =>
    rw [planned] at h
    cases hp : data (.pools zone) with
    | error e =>
      rw [hp] at h
      cases h
    | ok pools =>
      rw [hp] at h
      cases h
      refine List.nodup_flatMap.mpr ⟨fun p _ => nodup_bucketsOf (by decide) p.name, ?_⟩
      have hdistinct := (List.pairwise_map.mp (hnames pools rfl hp)).filter
        fun p => decide (p.kind = .geolocation)
      refine hdistinct.imp ?_
      intro p q hne b hb hb'
      obtain ⟨_, -, rfl⟩ := List.mem_map.mp hb
      obtain ⟨_, -, hb'⟩ := List.mem_map.mp hb'
      exact hne (congrArg Prod.fst hb').symm

theorem ofBucket_injective (zone : String) : Function.Injective (PoolCall.ofBucket zone) := by
  intro b b' h
  obtain ⟨-, hname, hbucket⟩ := PoolCall.rows.inj h
  exact Prod.ext hname hbucket

/-- A listing that is handed out is at its start. -/
theorem tracks_of_list (hs : source.Steady data s)
    (hl : ((list source.watched zone regions selection).run.run ⟨s, []⟩).answer = .ok l) :
    let w := ((list source.watched zone regions selection).run.run ⟨s, []⟩).state
    PoolListing.Tracks source.watched data l [] [] l w ∧ l.failed = false ∧
      w.calls = opening zone selection := by
  intro w
  obtain ⟨checked, -, hplanned⟩ := exists_planned_of_list (Source.watched_steady hs []) hl
  obtain ⟨calls, hstate, -, hlisting⟩ :=
    exists_calls_of_list source.watched zone regions selection ⟨s, []⟩
  obtain ⟨rfl, -, -, hcache, hcursor, hfailed⟩ := hlisting l hl
  have hsteady : source.watched.Steady data w :=
    (Source.watched_steady hs []).of_reaches ⟨_, hstate.symm⟩
  have hsound := planned_sound hsteady hplanned
  refine ⟨⟨rfl, rfl, rfl, .inl ⟨hcursor, rfl, rfl⟩, hsound, ?_⟩, hfailed, ?_⟩
  · rw [hcache]
    exact TerritoryCache.remembers_empty
  · rw [Source.after_watched] at hstate
    exact congrArg Watched.calls hstate

theorem calls_prefix_succ (source : PoolSource σ) (zone : String) (regions : RegionTable)
    (selection : Selection) (s : σ) (k : Nat) :
    callsAfter source zone regions selection s k <+:
      callsAfter source zone regions selection s (k + 1) := by
  unfold callsAfter
  cases hl : ((list source.watched zone regions selection).run.run ⟨s, []⟩).answer with
  | error e =>
    have hstate :=
      (run_pulled_of_error hl k).2.trans (run_pulled_of_error hl (k + 1)).2.symm
    exact hstate ▸ List.prefix_rfl
  | ok l =>
    rw [(run_pulled_of_ok hl k).2, (run_pulled_of_ok hl (k + 1)).2]
    obtain ⟨calls, hcalls, -⟩ := PoolListing.exists_calls_of_next source.watched
      (Item.reached (PoolListing.next source.watched) l
        ((list source.watched zone regions selection).run.run ⟨s, []⟩).state k).1
      (Item.reached (PoolListing.next source.watched) l
        ((list source.watched zone regions selection).run.run ⟨s, []⟩).state k).2
    exact Source.calls_of_reaches ⟨calls, hcalls.symm⟩

theorem calls_prefix_opening (source : PoolSource σ) (zone : String) (regions : RegionTable)
    (selection : Selection) (s : σ) :
    callsAfter source zone regions selection s 0 <+: opening zone selection := by
  obtain ⟨calls, hstate, hopening, -⟩ :=
    exists_calls_of_list source.watched zone regions selection ⟨s, []⟩
  rw [Source.after_watched, List.nil_append] at hstate
  unfold callsAfter
  cases hl : ((list source.watched zone regions selection).run.run ⟨s, []⟩).answer with
  | error e =>
    rw [(run_pulled_of_error hl 0).2, hstate]
    exact hopening
  | ok l =>
    rw [(run_pulled_of_ok hl 0).2, hstate]
    exact hopening

theorem length_fetches (hl : ((list source.watched zone regions selection).run.run ⟨s, []⟩).answer =
    .ok l) (k : Nat) :
    let w := ((list source.watched zone regions selection).run.run ⟨s, []⟩).state
    (PoolCall.fetches (callsAfter source zone regions selection s k)).length =
      l.pending.length -
        (Item.reached (PoolListing.next source.watched) l w k).1.pending.length := by
  intro w
  obtain ⟨hk, _, -, -, hpending, -⟩ := exists_calls_of_pulled hl rfl k
  have hlength := congrArg List.length hpending
  rw [List.length_map, List.length_append, List.length_map] at hlength
  rw [hk, hlength, Nat.add_sub_cancel]

/-- What the pull after others that gave record sets has asked for. -/
theorem asks_of_pulled (hs : source.Steady data s)
    (hl : ((list source.watched zone regions selection).run.run ⟨s, []⟩).answer = .ok l) {k : Nat}
    {sets : List RoutedRecordSet}
    (hk : ((pulled source.watched zone regions selection k).run.run ⟨s, []⟩).answer =
      .ok (sets.map fun r => some (.ok r))) :
    let calls := callsAfter source zone regions selection s
    (∀ i, (PoolCall.fetches (calls k)).length ≤ i →
      i < (PoolCall.fetches (calls (k + 1))).length →
      (l.pending.take i).flatMap (l.itemsOf data) = sets.map .ok) ∧
    (PoolCall.loads (calls (k + 1))).Nodup ∧
    ∀ id ∈ PoolCall.loads (calls (k + 1)), ∃ first items, l.Starts data items first ∧
      items <+: sets.map .ok ∧ first.group?.map GroupRef.id = some id := by
  intro calls
  obtain ⟨htracks, hfailed, hopening⟩ := tracks_of_list hs hl
  have hlength := length_fetches hl k
  have hlength' := length_fetches hl (k + 1)
  rw [(run_pulled_of_ok hl k).1, Except.ok.injEq] at hk
  have hcalls : calls (k + 1) = _ :=
    congrArg Watched.calls (run_pulled_of_ok hl (k + 1)).2
  generalize ((list source.watched zone regions selection).run.run ⟨s, []⟩).state = w at *
  obtain ⟨hfailed', before, hstate, htracks', hreached⟩ := htracks.of_given hfailed hk
  obtain ⟨more, hstate', hnodup, ⟨hloads, hfetches⟩, -⟩ := htracks'.pull hfailed'
  have hall : PoolCall.loads (calls (k + 1)) = PoolCall.loads before ++ PoolCall.loads more := by
    have hnone : PoolCall.loads (opening zone selection) = [] := by
      cases selection <;> rfl
    rw [hcalls, Item.reached, hstate', hstate, Source.after_watched, Source.after_watched, hopening,
      PoolCall.loads_append, PoolCall.loads_append, hnone, List.nil_append]
  refine ⟨?_, ?_, ?_⟩
  · intro i hi hi'
    apply hfetches i
    · rwa [← hlength]
    · rwa [hlength'] at hi'
  · rwa [hall]
  · intro id hid
    rw [hall] at hid
    rcases List.mem_append.mp hid with hid | hid
    · exact hreached id hid
    · obtain ⟨first, hstarts, hgroup⟩ := hloads id hid
      exact ⟨first, _, hstarts, List.prefix_rfl, hgroup⟩

/-- A listing asks for no more than it needs, in order and once. Starting it only asks for the zone
and, when all is listed, for its pools. Every pull goes on from the calls before it. Buckets are
fetched in their order, each when everything before it has been given. Territories are loaded once,
for runs that have been reached. -/
theorem listings_are_lazy (hs : source.Steady data s) (zone : String) (regions : RegionTable)
    (selection : Selection) :
    let calls := callsAfter source zone regions selection s
    calls 0 <+: opening zone selection ∧ (∀ k, calls k <+: calls (k + 1)) ∧
    ∀ l, ((list source.watched zone regions selection).run.run ⟨s, []⟩).answer = .ok l →
      (∃ checked, selection.check provider = .ok checked ∧
        planned data zone regions checked = .ok l) ∧
      calls 0 = opening zone selection ∧
      (∀ k, PoolCall.fetches (calls k) <+: l.pending.map (PoolCall.ofBucket zone)) ∧
      ((∀ pools, selection = .all → data (.pools zone) = .ok pools →
        (pools.map Pool.name).Nodup) → ∀ k, (PoolCall.fetches (calls k)).Nodup) ∧
      ∀ k (sets : List RoutedRecordSet),
        ((pulled source.watched zone regions selection k).run.run ⟨s, []⟩).answer =
          .ok (sets.map fun r => some (.ok r)) →
        (∀ i, (PoolCall.fetches (calls k)).length ≤ i →
          i < (PoolCall.fetches (calls (k + 1))).length →
          (l.pending.take i).flatMap (l.itemsOf data) = sets.map .ok) ∧
        (PoolCall.loads (calls (k + 1))).Nodup ∧
        ∀ id ∈ PoolCall.loads (calls (k + 1)), ∃ first items, l.Starts data items first ∧
          items <+: sets.map .ok ∧ first.group?.map GroupRef.id = some id := by
  intro calls
  refine ⟨calls_prefix_opening source zone regions selection s,
    calls_prefix_succ source zone regions selection s, ?_⟩
  intro l hl
  obtain ⟨checked, hc, hplanned⟩ := exists_planned_of_list (Source.watched_steady hs []) hl
  have hgrows : ∀ k, PoolCall.fetches (calls k) <+: l.pending.map (PoolCall.ofBucket zone) := by
    intro k
    obtain ⟨hk, _, -, -, hpending, -⟩ := exists_calls_of_pulled hl rfl k
    rw [show calls k = _ from hk, hpending]
    exact List.prefix_append _ _
  refine ⟨⟨checked, hc, hplanned⟩, ?_, hgrows, ?_, fun k sets hk => asks_of_pulled hs hl hk⟩
  · obtain ⟨-, -, hopening⟩ := tracks_of_list hs hl
    rw [← hopening]
    exact congrArg Watched.calls (run_pulled_of_ok hl 0).2
  · intro hnames k
    have hnodup : l.pending.Nodup := by
      apply nodup_planned hplanned
      rintro pools rfl
      obtain ⟨hall, -⟩ | ⟨name, -, hname⟩ | ⟨name, type, -, htype⟩ := Selection.cases_of_check hc
      · exact hnames pools hall
      · cases hname
      · cases htype
    exact (hnodup.map (ofBucket_injective zone)).sublist (hgrows k).sublist

/-- The second bucket is fetched by the second pull, when the first has been given. -/
theorem listings_are_lazy_of_twoGroupStore :
    let calls := callsAfter PoolStore.source "z." ⟨.empty⟩ (.typed "a.z." "cname") twoGroupStore
    PoolStore.source.Steady twoGroupStore.reply twoGroupStore ∧
      calls 0 = [.zoneExists "z."] ∧ calls 1 <+: calls 2 ∧
      (twoGroupListing.pending.take 1).flatMap (twoGroupListing.itemsOf twoGroupStore.reply) =
        [twoGroupSet "one.z." "eu" "BE"].map .ok ∧
      (PoolCall.loads (calls 2)).Nodup ∧ PoolCall.loads (calls 2) = ["1", "2"] := by
  intro calls
  have hs := PoolStore.source_steady twoGroupStore
  have hl : ((list PoolStore.source.watched "z." ⟨.empty⟩ (.typed "a.z." "cname")).run.run
      ⟨twoGroupStore, []⟩).answer = .ok twoGroupListing := by decide +kernel
  have hk : ((pulled PoolStore.source.watched "z." ⟨.empty⟩ (.typed "a.z." "cname") 1).run.run
      ⟨twoGroupStore, []⟩).answer =
        .ok ([twoGroupSet "one.z." "eu" "BE"].map fun r => some (.ok r)) := by decide +kernel
  obtain ⟨-, hgrows, hlistings⟩ := listings_are_lazy hs "z." ⟨.empty⟩ (.typed "a.z." "cname")
  obtain ⟨-, hopening, -, -, hpulls⟩ := hlistings twoGroupListing hl
  obtain ⟨hfetches, hloads, -⟩ := hpulls 1 _ hk
  refine ⟨hs, hopening, hgrows 1, hfetches 1 ?_ ?_, hloads, ?_⟩
  · decide +kernel
  · decide +kernel
  · decide +kernel

end Pool

end GeoRouting
