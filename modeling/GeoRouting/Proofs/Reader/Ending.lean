import GeoRouting.Pool.Reader
import GeoRouting.Pool.Store
import GeoRouting.Proofs.Pool.ListingItems
import GeoRouting.RecordStore.Reader
import GeoRouting.Service.Reader
import GeoRouting.Service.Store

/-!
# How listings end

A pull gives a record set, an error or nothing. After an error and after nothing a listing is
over: whatever its backend answers from then on, it gives nothing more. So the pulls of a listing
give record sets, then an error or none, and then nothing, however many they are.
-/

namespace GeoRouting

/-- What pulls give in order: record sets, at most one error, and then nothing. -/
def Item.EndsOnce (pulled : List (Option Item)) : Prop :=
  ∃ (sets : List RoutedRecordSet) (error : Option GeoError) (rest : Nat),
    pulled = sets.map (fun r => some (.ok r)) ++ error.toList.map (fun e => some (.error e)) ++
      List.replicate rest none

namespace Reader
variable {σ ℓ : Type} {r : Reader σ ℓ} {ended : ℓ → Prop}

/-- Whether a listing that gives no record set is over, and gives nothing more then. -/
structure Stops (r : Reader σ ℓ) (ended : ℓ → Prop) : Prop where
  stops : ∀ l s, (∀ set, ((r.next l).run s).answer.1 ≠ some (.ok set)) →
    ended ((r.next l).run s).answer.2
  rests : ∀ l s, ended l → ((r.next l).run s).answer.1 = none ∧ ended ((r.next l).run s).answer.2

theorem Stops.pull_of_ended (h : r.Stops ended) {l : ℓ} (hl : ended l) (n : Nat) (s : σ) :
    ((r.pull l n).run s).answer.1 = List.replicate n none := by
  induction n generalizing l s with
  | zero => rfl
  | succ n ih =>
    obtain ⟨hitem, hnext⟩ := h.rests l s hl
    rw [pull, List.replicate_succ]
    simp only [Act.run_bind, Act.run_pure]
    rw [hitem, ih hnext]

theorem Stops.endsOnce_pull (h : r.Stops ended) (l : ℓ) (n : Nat) (s : σ) :
    Item.EndsOnce ((r.pull l n).run s).answer.1 := by
  induction n generalizing l s with
  | zero => exact ⟨[], none, 0, rfl⟩
  | succ n ih =>
    rw [pull]
    simp only [Act.run_bind, Act.run_pure]
    have hstops := h.stops l s
    cases hitem : ((r.next l).run s).answer.1 with
    | none =>
      rw [h.pull_of_ended (hstops (by simp [hitem]))]
      exact ⟨[], none, n + 1, rfl⟩
    | some item =>
      cases item with
      | error e =>
        rw [h.pull_of_ended (hstops (by simp [hitem]))]
        exact ⟨[], some e, n, rfl⟩
      | ok set =>
        obtain ⟨sets, error, rest, hrest⟩ := ih ((r.next l).run s).answer.2 _
        rw [hrest]
        exact ⟨set :: sets, error, rest, rfl⟩

end Reader

/-! ## Groupings -/

namespace Grouping
variable {σ : Type} {load : TerritorySource σ}

/-- Whether an error was given or no row is left. -/
def Over (g : Grouping) : Prop := g.failed = true ∨ g.rows.toList = []

theorem next_of_over {g : Grouping} (h : g.Over) (cache : TerritoryCache) (s : σ) :
    (g.next load cache).run s = ⟨(none, cache, g), s, []⟩ := by
  rw [next]
  rcases h with h | h
  · rw [if_pos h]
    rfl
  · rw [RowStream.next?_eq_none.mpr h]
    split
    · rfl
    · rfl

theorem over_of_next {g : Grouping} {cache : TerritoryCache} {s : σ}
    (h : ∀ r, ((g.next load cache).run s).answer.1 ≠ some (.ok r)) :
    ((g.next load cache).run s).answer.2.2.Over := by
  rw [next] at h ⊢
  cases hf : g.failed with
  | true => exact .inl hf
  | false =>
    rw [hf, if_neg Bool.false_ne_true] at h
    rw [if_neg Bool.false_ne_true]
    cases hr : g.rows.next? with
    | none => exact .inr (RowStream.next?_eq_none.mp hr)
    | some p =>
      rw [hr] at h
      simp only [Act.run_bind, Act.run_pure] at h ⊢
      left
      cases hitem : ((Run.build g.provider load g.regions cache p.1 p.2).run s).answer.1 with
      | error e => rfl
      | ok r => exact absurd (congrArg some hitem) (h r)

end Grouping

/-! ## Listings of directional pools -/

namespace PoolListing
variable {σ : Type} {source : PoolSource σ}

/-- Whether an error was given or no bucket is left. -/
def Over (l : PoolListing) : Prop := l.failed = true ∨ l.cursor = .idle ∧ l.pending = []

theorem failed_advance (l : PoolListing) (cache : TerritoryCache) (cursor : BucketCursor)
    (pending : List (String × Bucket)) (s : σ) :
    ((advance source l cache cursor pending).run s).answer.2.failed = l.failed := by
  induction pending generalizing cache cursor s with
  | nil => rfl
  | cons b pending ih =>
    simp only [advance, Act.run_bind]
    split
    · rfl
    · exact ih _ _ _

theorem idle_of_advance {l : PoolListing} {cache : TerritoryCache} {cursor : BucketCursor}
    {pending : List (String × Bucket)} {s : σ}
    (h : ((advance source l cache cursor pending).run s).answer.1 = none) :
    ((advance source l cache cursor pending).run s).answer.2.cursor = .idle ∧
      ((advance source l cache cursor pending).run s).answer.2.pending = [] := by
  induction pending generalizing cache cursor s with
  | nil =>
    simp only [advance, Act.run_bind, Act.run_pure] at h ⊢
    rw [h]
    exact ⟨rfl, trivial⟩
  | cons b pending ih =>
    simp only [advance, Act.run_bind] at h ⊢
    cases hk : ((cursor.nextKept source l.only cache).run s).answer.1 with
    | some item =>
      rw [hk] at h
      cases h
    | none =>
      rw [hk] at h
      exact ih h

theorem advance_of_idle (l : PoolListing) (cache : TerritoryCache) (s : σ) :
    (advance source l cache .idle []).run s =
      ⟨(none, { l with cache, cursor := .idle, pending := [] }), s, []⟩ := by
  have hk : (BucketCursor.nextKept source l.only cache .idle).run s =
      ⟨(none, cache, .idle), s, []⟩ := by
    rw [BucketCursor.nextKept]
    rfl
  rw [advance, Act.run_bind, hk]
  rfl

theorem next_of_over {l : PoolListing} (h : l.Over) (s : σ) :
    ((next source l).run s).answer.1 = none ∧ ((next source l).run s).answer.2.Over := by
  rw [next]
  simp only [Act.run_bind]
  rcases h with h | ⟨hc, hp⟩
  · rw [if_pos h]
    exact ⟨rfl, .inl ((failed_advance l l.cache l.cursor l.pending s).trans h)⟩
  · rw [hc, hp, advance_of_idle]
    split
    · exact ⟨rfl, .inr ⟨rfl, rfl⟩⟩
    · exact ⟨rfl, .inr ⟨rfl, rfl⟩⟩

theorem over_of_next {l : PoolListing} {s : σ}
    (h : ∀ r, ((next source l).run s).answer.1 ≠ some (.ok r)) :
    ((next source l).run s).answer.2.Over := by
  rw [next] at h ⊢
  simp only [Act.run_bind] at h ⊢
  cases hf : l.failed with
  | true => exact .inl ((failed_advance l l.cache l.cursor l.pending s).trans hf)
  | false =>
    rw [hf, if_neg Bool.false_ne_true] at h
    rw [if_neg Bool.false_ne_true]
    cases hitem : ((advance source l l.cache l.cursor l.pending).run s).answer.1 with
    | none => exact .inr (idle_of_advance hitem)
    | some item =>
      rw [hitem] at h
      cases item with
      | error e => exact .inl rfl
      | ok r => exact absurd rfl (h r)

end PoolListing

/-! ## Readers -/

namespace Reader
variable {σ ℓ : Type}

/-- Whether every listing ends once, in whatever state of the backend it is pulled. -/
def ListingsEndOnce (r : Reader σ ℓ) : Prop :=
  ∀ selection s l, ((r.list selection).run.run s).answer = .ok l →
    ∀ n t, Item.EndsOnce ((r.pull l n).run t).answer.1

theorem answer_pull (r : Reader σ ℓ) (l : ℓ) (n : Nat) (s : σ) :
    ((r.pull l n).run s).answer.1 = ((Item.pull r.next l n).run s).answer := by
  induction n generalizing l s with
  | zero => rfl
  | succ n ih => exact congrArg (_ :: ·) (ih _ _)

theorem Stops.listingsEndOnce {r : Reader σ ℓ} {ended : ℓ → Prop} (h : r.Stops ended) :
    r.ListingsEndOnce :=
  fun _ _ l _ n t => h.endsOnce_pull l n t

end Reader

theorem Pool.stops_reader {σ : Type} {source : PoolSource σ} {regions : RegionTable}
    {zone : String} {s : σ} {r : Reader σ PoolListing}
    (h : ((reader source regions zone).run.run s).answer = .ok r) :
    r.Stops PoolListing.Over := by
  obtain ⟨_, -, hr⟩ := Query.bind_eq_ok.mp h
  cases hr
  exact ⟨fun _ _ => PoolListing.over_of_next, fun _ t hl => PoolListing.next_of_over hl t⟩

theorem GeoService.stops_reader {σ : Type} {source : ServiceSource σ} {regions : RegionTable}
    {zone : String} {s : σ} {r : Reader σ ServiceListing}
    (h : ((reader source regions zone).run.run s).answer = .ok r) :
    r.Stops fun l => l.grouping.Over := by
  obtain ⟨_, -, hr⟩ := Query.bind_eq_ok.mp h
  cases hr
  constructor
  · intro l t hnone
    exact Grouping.over_of_next hnone
  · intro l t hl
    have hnext := @Grouping.next_of_over _ (territories l.countries) l.grouping hl l.cache t
    simp only [next, Act.run_bind, hnext]
    exact ⟨rfl, hl⟩

theorem RecordStore.stops_reader {zone : String} {s : RecordStore}
    {r : Reader RecordStore (List RoutedRecordSet)}
    (h : ((reader zone).run.run s).answer = .ok r) : r.Stops (· = []) := by
  obtain ⟨_, -, h⟩ := Query.bind_eq_ok.mp h
  dsimp only at h
  split at h
  · cases h
  · cases h
    constructor
    · intro l t hnone
      cases l with
      | nil => rfl
      | cons set sets => exact absurd rfl (hnone set)
    · rintro _ t rfl
      exact ⟨rfl, rfl⟩

/-- Every listing of every reader gives record sets, at most one error, and then nothing, whatever
its backend answers and however often it is pulled. -/
theorem Reader.pull_ends_once :
    (∀ {σ : Type} (source : PoolSource σ) regions zone s r,
      ((Pool.reader source regions zone).run.run s).answer = .ok r → r.ListingsEndOnce) ∧
    (∀ {σ : Type} (source : ServiceSource σ) regions zone s r,
      ((GeoService.reader source regions zone).run.run s).answer = .ok r → r.ListingsEndOnce) ∧
    ∀ zone s r, ((RecordStore.reader zone).run.run s).answer = .ok r → r.ListingsEndOnce :=
  ⟨fun _ _ _ _ _ h => (Pool.stops_reader h).listingsEndOnce,
    fun _ _ _ _ _ h => (GeoService.stops_reader h).listingsEndOnce,
    fun _ _ _ h => (RecordStore.stops_reader h).listingsEndOnce⟩

/-- A row between two good ones whose group has no territories. -/
def faultyPools : PoolStore := .ofHistory
  [.addZone "z.",
    .addRow "z." .ipv4
      { name := "a.z.", type := "A", ttl := none, values := ["192.0.2.1"],
        geoGroup := some ⟨"1", "eu"⟩ },
    .addRow "z." .ipv6
      { name := "a.z.", type := "AAAA", ttl := none, values := ["2001:db8::1"],
        geoGroup := some ⟨"2", "us"⟩ },
    .addRow "z." .mx
      { name := "a.z.", type := "MX", ttl := none, values := ["10", "mx.z."],
        geoGroup := some ⟨"1", "eu"⟩ },
    .setTerritories "1" ["BE"]]

/-- Values between two good ones that are too few for their type. -/
def faultyServices : ServiceStore := .ofHistory
  [.addZone "z.",
    .putService ⟨"s", [⟨"z.", "a.z."⟩], [⟨"eu", ["BE"],
      [⟨"A", none, [["192.0.2.1"]]⟩, ⟨"MX", none, [["mx.z."]]⟩, ⟨"TXT", none, [["t"]]⟩]⟩]⟩]

def plainSet : RoutedRecordSet :=
  ⟨⟨"a.z.", "A", none, [.single "address" (.text "192.0.2.1")]⟩,
    .single Route.geoKind (.geo ⟨"eu", ["BE"], false⟩)⟩

def plainStore : RecordStore := .ofHistory [.addZone "z.", .put "z." plainSet]

theorem Reader.pull_ends_once_of_faults :
    (∃ r l, ((Pool.reader PoolStore.source ⟨.empty⟩ "z.").run.run faultyPools).answer = .ok r ∧
      ((r.list .all).run.run faultyPools).answer = .ok l ∧
      ((r.pull l 4).run faultyPools).answer.1 =
        [some (.ok plainSet), some (.error (.backend "ultradns" "no directional group 2")),
          none, none] ∧
      Item.EndsOnce ((r.pull l 4).run faultyPools).answer.1) ∧
    (∃ r l, ((GeoService.reader ServiceStore.source ⟨.empty⟩ "z.").run.run
        faultyServices).answer = .ok r ∧
      ((r.list (.named "A.z")).run.run faultyServices).answer = .ok l ∧
      ((r.pull l 4).run faultyServices).answer.1 =
        [some (.ok plainSet),
          some (.error (.invalidArgument "dynect" "rdata"
            "MX expects 2 values (preference, exchange), got 1")), none, none] ∧
      Item.EndsOnce ((r.pull l 4).run faultyServices).answer.1) ∧
    ∃ r l, ((RecordStore.reader "z.").run.run plainStore).answer = .ok r ∧
      ((r.list (.typed "a.z." "a")).run.run plainStore).answer = .ok l ∧
      ((r.pull l 3).run plainStore).answer.1 = [some (.ok plainSet), none, none] ∧
      Item.EndsOnce ((r.pull l 3).run plainStore).answer.1 := by
  obtain ⟨hpools, hservices, hrecords⟩ := pull_ends_once
  refine ⟨?_, ?_, ?_⟩
  · have hends := hpools PoolStore.source ⟨.empty⟩ "z." faultyPools _ rfl
    have hsteady := PoolStore.source_steady faultyPools
    obtain ⟨l, hl⟩ : ∃ l, Pool.planned faultyPools.reply "z." ⟨.empty⟩ .all = .ok l := ⟨_, rfl⟩
    have hlist := (Pool.list_steady hsteady rfl Selection.check_all ⟨.empty⟩).1.trans hl
    refine ⟨_, l, rfl, hlist, ?_, hends .all faultyPools l hlist 4 faultyPools⟩
    have hpulls := PoolListing.pulls PoolStore.source faultyPools.reply
    rw [answer_pull]
    refine (hpulls.answer_pull (Pool.planned_sound hsteady hl) 4).trans ?_
    cases hl
    decide +kernel
  · have hends := hservices ServiceStore.source ⟨.empty⟩ "z." faultyServices _ rfl
    refine ⟨_, _, rfl, rfl, ?_, hends (.named "A.z") faultyServices _ rfl 4 faultyServices⟩
    decide +kernel
  · have hends := hrecords "z." plainStore _ rfl
    refine ⟨_, _, rfl, rfl, ?_, hends (.typed "a.z." "a") plainStore _ rfl 3 plainStore⟩
    decide +kernel

end GeoRouting
