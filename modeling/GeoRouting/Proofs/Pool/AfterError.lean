import GeoRouting.Proofs.Pool.Course

/-!
# Pulls after an error

A listing that has given an error gives nothing more, but it is not at rest: the next pull fetches
the rows of the next bucket when there is one. Pulls after an error make no calls exactly when the
error arose in the last bucket of the listing.
-/

namespace GeoRouting

namespace PoolListing
variable {σ : Type} {source : PoolSource σ}

theorem state_advance_of_last {cursor : BucketCursor} (h : cursor.Over) (l : PoolListing)
    (cache : TerritoryCache) (s : σ) :
    let out := (advance source l cache cursor []).run s
    out.state = s ∧ out.answer.2.cursor = .idle ∧ out.answer.2.pending = [] := by
  rw [advance, Act.run_bind, BucketCursor.nextKept_of_over h]
  exact ⟨rfl, rfl, rfl⟩

/-- A listing that is through with a bucket fetches the next one when it is pulled. -/
theorem exists_state_advance {cursor : BucketCursor} (h : cursor.Over) (l : PoolListing)
    (cache : TerritoryCache) (b : String × Bucket) (pending : List (String × Bucket)) (s : σ) :
    ∃ more, ((advance source l cache cursor (b :: pending)).run s).state =
      source.after (PoolCall.ofBucket l.zone b :: more) s := by
  rw [advance, Act.run_bind, BucketCursor.nextKept_of_over h]
  dsimp only
  rw [Act.run_bind]
  obtain ⟨calls, m, t, hskips, hstate, -⟩ := exists_skips_of_advance source l cache
    ((BucketCursor.fetch source l.zone l.regions b.1 b.2).run s).answer pending
    ((BucketCursor.fetch source l.zone l.regions b.1 b.2).run s).state
  refine ⟨calls ++ (m.cursor.missing m.cache).map PoolCall.territories, ?_⟩
  dsimp only
  rw [hstate, BucketCursor.state_next, hskips.state_eq, BucketCursor.state_fetch,
    ← Source.after_append, ← Source.after_append]
  rfl

/-- A listing that gives an error is through with the bucket that it is in. -/
theorem over_of_next_eq_error {l : PoolListing} {s : σ} {e : GeoError}
    (h : ((next source l).run s).answer.1 = some (.error e)) :
    ((next source l).run s).answer.2.failed = true ∧
      ((next source l).run s).answer.2.cursor.Over := by
  cases hf : l.failed with
  | true =>
    rw [next_of_failed hf] at h
    cases h
  | false =>
    obtain ⟨calls, m, t, -, -, hitem, hlisting, -⟩ :=
      exists_skips_of_advance source l l.cache l.cursor l.pending s
    rw [next_of_not_failed hf] at h ⊢
    dsimp only at h ⊢
    rw [hitem] at h
    rw [hlisting, hitem, h]
    refine ⟨rfl, BucketCursor.over_of_next ?_⟩
    intro r hr
    rw [h] at hr
    cases hr

/-- A failed listing with a bucket left fetches it when it is pulled. -/
theorem exists_state_next_of_failed {l : PoolListing} (hf : l.failed = true) (hc : l.cursor.Over)
    {b : String × Bucket} {pending : List (String × Bucket)} (hp : l.pending = b :: pending)
    (s : σ) :
    ∃ more, ((next source l).run s).state =
      source.after (PoolCall.ofBucket l.zone b :: more) s := by
  rw [next_of_failed hf, hp]
  exact exists_state_advance hc l l.cache b pending s

/-- A failed listing without a bucket left asks for nothing more. -/
theorem state_reached_of_last {l : PoolListing} (hf : l.failed = true) (hc : l.cursor.Over)
    (hp : l.pending = []) (s : σ) (n : Nat) : (Item.reached (next source) l s n).2 = s := by
  induction n generalizing l with
  | zero => rfl
  | succ n ih =>
    have hfailed := @failed_advance σ source l l.cache l.cursor l.pending s
    rw [hp] at hfailed
    obtain ⟨hstate, hcursor, hpending⟩ := @state_advance_of_last σ source _ hc l l.cache s
    rw [Item.reached_succ, next_of_failed hf, hp]
    dsimp only
    rw [hstate]
    apply ih
    · rw [hfailed, hf]
    · rw [hcursor]
      trivial
    · exact hpending

end PoolListing

namespace Pool

section
variable {σ : Type} {source : PoolSource σ} {zone : String} {regions : RegionTable}
  {selection : Selection} {s : σ}

/-- After an error a listing is failed and through with its bucket. -/
theorem over_of_pulled {l : PoolListing} {w : Watched σ PoolCall}
    (hl : ((list source.watched zone regions selection).run.run ⟨s, []⟩).answer = .ok l)
    (hw : ((list source.watched zone regions selection).run.run ⟨s, []⟩).state = w)
    {k : Nat} {items : List (Option Item)} {e : GeoError}
    (hk : ((pulled source.watched zone regions selection k).run.run ⟨s, []⟩).answer =
      .ok (items ++ [some (.error e)])) :
    let p := Item.reached (PoolListing.next source.watched) l w k
    p.1.failed = true ∧ p.1.cursor.Over := by
  rw [(run_pulled_of_ok hl k).1, hw, Except.ok.injEq] at hk
  cases k with
  | zero => simp at hk
  | succ k =>
    rw [List.range_succ, List.map_append] at hk
    obtain ⟨-, hlast⟩ := List.append_inj' hk rfl
    exact PoolListing.over_of_next_eq_error (List.singleton_inj.mp hlast)

/-- When a pull has given an error, pulls after it make no calls exactly when all buckets of the
listing have been fetched by then. -/
theorem calls_after_error_iff {l : PoolListing}
    (hl : ((list source.watched zone regions selection).run.run ⟨s, []⟩).answer = .ok l)
    {k : Nat} {items : List (Option Item)} {e : GeoError}
    (hk : ((pulled source.watched zone regions selection k).run.run ⟨s, []⟩).answer =
      .ok (items ++ [some (.error e)]))
    {m : Nat} (hm : 0 < m) :
    callsAfter source zone regions selection s (k + m) =
        callsAfter source zone regions selection s k ↔
      PoolCall.fetches (callsAfter source zone regions selection s k) =
        l.pending.map (PoolCall.ofBucket zone) := by
  generalize hw : ((list source.watched zone regions selection).run.run ⟨s, []⟩).state = w
  obtain ⟨hk', calls, -, -, hpending, hzone⟩ := exists_calls_of_pulled hl hw k
  obtain ⟨hkm, -⟩ := exists_calls_of_pulled hl hw (k + m)
  obtain ⟨hfailed, hover⟩ := over_of_pulled hl hw hk
  rw [hk', hkm, hpending, List.self_eq_append_right, List.map_eq_nil_iff, Item.reached_add]
  generalize Item.reached (PoolListing.next source.watched) l w k = p at *
  constructor
  · intro hsame
    cases hp : p.1.pending with
    | nil => rfl
    | cons b pending =>
      obtain ⟨more, hnext⟩ :=
        @PoolListing.exists_state_next_of_failed _ source.watched _ hfailed hover _ _ hp p.2
      obtain ⟨n, rfl⟩ := Nat.exists_eq_succ_of_ne_zero hm.ne'
      obtain ⟨later, hlater, -⟩ := PoolListing.exists_calls_of_reached source.watched
        ((PoolListing.next source.watched p.1).run p.2).answer.2
        ((PoolListing.next source.watched p.1).run p.2).state n
      rw [Nat.succ_eq_add_one, Item.reached_succ, hlater, hnext, Source.after_watched,
        Source.after_watched] at hsame
      have hlength := congrArg List.length hsame
      simp only [List.length_append, List.length_cons] at hlength
      omega
  · intro hp
    rw [PoolListing.state_reached_of_last hfailed hover hp]

end

/-- Aliases of one name: one without a group, and a good one in another bucket. -/
def ungroupedStore (bad good : Bucket) : PoolStore := .ofHistory
  [.addZone "z.",
    .addRow "z." bad { name := "a.z.", type := "CNAME", ttl := some 60, values := ["one.z."] },
    .addRow "z." good
      { name := "a.z.", type := "CNAME", ttl := some 60, values := ["two.z."],
        geoGroup := some ⟨"1", "eu"⟩ },
    .setTerritories "1" ["BE"]]

def ungroupedError : GeoError :=
  .contractViolation provider "expected record to be in a geolocation group: a.z. CNAME one.z."

theorem calls_after_error_of_last_bucket :
    ∃ l, ((list PoolStore.source.watched "z." ⟨.empty⟩ (.typed "a.z." "cname")).run.run
        ⟨ungroupedStore .ipv6 .ipv4, []⟩).answer = .ok l ∧
      ((pulled PoolStore.source.watched "z." ⟨.empty⟩ (.typed "a.z." "cname") 2).run.run
          ⟨ungroupedStore .ipv6 .ipv4, []⟩).answer =
        .ok ([some (.ok ⟨⟨"a.z.", "CNAME", some 60, [.single "cname" (.text "two.z.")]⟩,
            .single Route.geoKind (.geo ⟨"eu", ["BE"], false⟩)⟩)] ++
          [some (.error ungroupedError)]) ∧
      0 < 5 ∧
      callsAfter PoolStore.source "z." ⟨.empty⟩ (.typed "a.z." "cname")
          (ungroupedStore .ipv6 .ipv4) (2 + 5) =
        callsAfter PoolStore.source "z." ⟨.empty⟩ (.typed "a.z." "cname")
          (ungroupedStore .ipv6 .ipv4) 2 := by
  have hl : ((list PoolStore.source.watched "z." ⟨.empty⟩ (.typed "a.z." "cname")).run.run
      ⟨ungroupedStore .ipv6 .ipv4, []⟩).answer =
        .ok ⟨"z.", ⟨.empty⟩, some "CNAME", .empty, .idle,
          [("a.z.", .ipv4), ("a.z.", .ipv6)], false⟩ := by decide +kernel
  have hk : ((pulled PoolStore.source.watched "z." ⟨.empty⟩ (.typed "a.z." "cname") 2).run.run
      ⟨ungroupedStore .ipv6 .ipv4, []⟩).answer =
        .ok ([some (.ok ⟨⟨"a.z.", "CNAME", some 60, [.single "cname" (.text "two.z.")]⟩,
            .single Route.geoKind (.geo ⟨"eu", ["BE"], false⟩)⟩)] ++
          [some (.error ungroupedError)]) := by decide +kernel
  refine ⟨_, hl, hk, by decide, ?_⟩
  rw [calls_after_error_iff hl hk (by decide)]
  decide +kernel

/-- With the bad row in the first bucket the pull after the error fetches the second bucket, and
loads territories for an item that is not given. -/
theorem calls_after_error_of_first_bucket :
    ((pulled PoolStore.source.watched "z." ⟨.empty⟩ (.typed "a.z." "cname") 2).run.run
        ⟨ungroupedStore .ipv4 .ipv6, []⟩).answer = .ok [some (.error ungroupedError), none] ∧
      callsAfter PoolStore.source "z." ⟨.empty⟩ (.typed "a.z." "cname")
          (ungroupedStore .ipv4 .ipv6) 1 =
        [.zoneExists "z.", .rows "z." "a.z." .ipv4] ∧
      callsAfter PoolStore.source "z." ⟨.empty⟩ (.typed "a.z." "cname")
          (ungroupedStore .ipv4 .ipv6) 2 =
        [.zoneExists "z.", .rows "z." "a.z." .ipv4, .rows "z." "a.z." .ipv6, .territories "1"] := by
  refine ⟨by decide +kernel, by decide +kernel, by decide +kernel⟩

end Pool

end GeoRouting
