import GeoRouting.Proofs.ItemSequence
import GeoRouting.Proofs.Row.RunItem

/-!
# Draining a grouping

A grouping over unchanging territories has a fixed sequence of items left: those of the runs of
its rows, up to the first that is an error. Each pull takes the first of them off. So draining
it gives one item per run, and pulls beyond the end or beyond an error give nothing.
-/

namespace GeoRouting

theorem Run.items_cons (provider : String) (territories : String → Except GeoError (List String))
    (first : Row) (source : List Row) :
    items provider territories (first :: source) =
      item provider territories first (first.others source) ::
        items provider territories (first.beyond source) := by
  rw [items, Row.runs_cons, List.filterMap_cons]
  rfl

theorem Run.items_eq_nil {provider : String} {territories : String → Except GeoError (List String)}
    {rows : List Row} : items provider territories rows = [] ↔ rows = [] := by
  cases rows with
  | nil => simp [items]
  | cons first source => simp [items_cons]

namespace Grouping
variable {σ : Type}

/-- The items that a grouping still has to give. -/
def remaining (territories : String → Except GeoError (List String)) (g : Grouping) : List Item :=
  if g.failed then [] else Item.upToError (Run.items g.provider territories g.rows.toList)

theorem remaining_ofRows (provider : String) (regions : Option RegionTable) (rows : List Row)
    (territories : String → Except GeoError (List String)) :
    (ofRows provider regions rows).remaining territories =
      Item.upToError (Run.items provider territories rows) := rfl

theorem eq_nil_of_remaining_error {territories : String → Except GeoError (List String)}
    {g : Grouping} {e : GeoError} {items : List Item}
    (h : g.remaining territories = .error e :: items) : items = [] := by
  unfold remaining at h
  split at h
  · cases h
  · exact Item.eq_nil_of_upToError_error h

/-- Pulls a number of times. -/
def pull (load : TerritorySource σ) (cache : TerritoryCache) (g : Grouping) (n : Nat) :
    Act σ (List (Option Item)) :=
  Item.pull (fun p => p.2.next load p.1) (cache, g) n

section
variable {load : TerritorySource σ} {data : String → Except GeoError (List String)} {s : σ}

/-- A pull takes the first remaining item off. -/
theorem next_steady (hs : load.Steady data s) {cache : TerritoryCache} {g : Grouping}
    (hc : cache.Holds (TerritoryCache.resolved g.regions data)) :
    let territories := TerritoryCache.resolved g.regions data
    let out := (g.next load cache).run s
    load.Reaches s out.state ∧ out.answer.2.1.Holds territories ∧
      out.answer.2.2.regions = g.regions ∧
      out.answer.1 = (g.remaining territories).head? ∧
      out.answer.2.2.remaining territories = (g.remaining territories).tail := by
  intro territories
  rw [next]
  cases hfailed : g.failed with
  | true =>
    have hr : g.remaining territories = [] := by rw [remaining, hfailed, if_pos rfl]
    rw [hr]
    exact ⟨Source.reaches_refl s, hc, rfl, rfl, hr⟩
  | false =>
    have hr : g.remaining territories =
        Item.upToError (Run.items g.provider territories g.rows.toList) := by
      rw [remaining, hfailed, if_neg Bool.false_ne_true]
    rw [if_neg Bool.false_ne_true]
    cases hrows : g.rows.next? with
    | none =>
      have hrest : g.remaining territories = [] := by
        rw [hr, RowStream.next?_eq_none.mp hrows]
        rfl
      rw [hrest]
      exact ⟨Source.reaches_refl s, hc, rfl, rfl, hrest⟩
    | some p =>
      obtain ⟨first, source⟩ := p
      obtain ⟨hreach, hholds, hitem, hstream⟩ :=
        Run.build_steady hs hc g.provider first source
      rw [hr, RowStream.next?_eq_some.mp hrows, Run.items_cons]
      simp only [Act.run_bind, Act.run_pure]
      refine ⟨hreach, hholds, trivial, ?_, ?_⟩
      · rw [hitem, Item.head?_upToError]
        rfl
      · rw [remaining]
        rw [hitem] at hstream ⊢
        cases hout : Run.item g.provider territories first (first.others source) with
        | error e => rfl
        | ok r =>
          rw [hout] at hstream
          have hl := hstream rfl
          change Item.upToError (Run.items g.provider territories (RowStream.toList _)) = _
          rw [hl]
          rfl

theorem pulls (load : TerritorySource σ) (data : String → Except GeoError (List String))
    (regions : Option RegionTable) :
    Item.Pulls (fun p => p.2.next load p.1)
      (fun (p : TerritoryCache × Grouping) s => load.Steady data s ∧
        p.1.Holds (TerritoryCache.resolved regions data) ∧ p.2.regions = regions)
      (fun p => p.2.remaining (TerritoryCache.resolved regions data)) where
  step := by
    rintro ⟨cache, g⟩ s ⟨hs, hc, rfl⟩
    obtain ⟨hreach, hholds, hregions, hitem, hrest⟩ := next_steady hs hc
    exact ⟨⟨hs.of_reaches hreach, hholds, hregions⟩, hitem, hrest⟩
  cut := fun _ _ _ h => eq_nil_of_remaining_error h

theorem run_drain (load : TerritorySource σ) (cache : TerritoryCache) (g : Grouping) (s : σ) :
    (g.drain load cache).run s =
      let out := (g.next load cache).run s
      match out.answer.1 with
      | none => ⟨[], out.state, out.log⟩
      | some (.error e) => ⟨[.error e], out.state, out.log⟩
      | some (.ok r) =>
        let rest := (out.answer.2.2.drain load out.answer.2.1).run out.state
        ⟨.ok r :: rest.answer, rest.state, out.log ++ rest.log⟩ := by
  rw [drain]
  dsimp only
  split <;> rename_i h <;> rw [h]

theorem answer_drain (load : TerritorySource σ) (p : TerritoryCache × Grouping) (s : σ) :
    let out := (p.2.next load p.1).run s
    ((p.2.drain load p.1).run s).answer =
      match out.answer.1 with
      | none => []
      | some (.error e) => [.error e]
      | some (.ok r) =>
        .ok r :: ((out.answer.2.2.drain load out.answer.2.1).run out.state).answer := by
  intro out
  rw [run_drain]
  dsimp only
  cases out.answer.1 with
  | none => rfl
  | some item => cases item <;> rfl

/-- A drain gives all remaining items. -/
theorem drain_steady (hs : load.Steady data s) {cache : TerritoryCache} {g : Grouping}
    (hc : cache.Holds (TerritoryCache.resolved g.regions data)) :
    ((g.drain load cache).run s).answer =
      g.remaining (TerritoryCache.resolved g.regions data) :=
  (pulls load data g.regions).answer_drain (l := (cache, g)) (answer_drain load) ⟨hs, hc, rfl⟩

/-- A grouping of any rows gives the items of their runs up to the first error, whether it is
drained or pulled, and nothing when it is pulled further. -/
theorem ofRows_gives_items_of_runs (hs : load.Steady data s) (provider : String)
    (regions : Option RegionTable) (rows : List Row) :
    let items := Item.upToError (Run.items provider (TerritoryCache.resolved regions data) rows)
    let g := ofRows provider regions rows
    ((g.drain load .empty).run s).answer = items ∧
      ∀ n, ((g.pull load .empty n).run s).answer = (List.range n).map fun i => items[i]? := by
  intro items g
  have hp := pulls load data regions
  have hi : load.Steady data s ∧
      TerritoryCache.Holds (TerritoryCache.resolved regions data) .empty ∧ g.regions = regions :=
    ⟨hs, TerritoryCache.holds_empty, rfl⟩
  constructor
  · exact hp.answer_drain (l := (.empty, g)) (answer_drain load) hi
  · intro n
    exact hp.answer_pull (l := (.empty, g)) hi n

end

/-- One name in two spellings, to one group by its two kinds, and then a row without a group. -/
def spelledRows : List Row :=
  [{ name := "www.x.", type := "A", ttl := some 60, values := ["192.0.2.1"],
      geoGroup := some ⟨"1", "eu"⟩ },
    { name := "WWW.X.", type := "A", ttl := some 60, values := ["192.0.2.2"],
      plainGroup := some ⟨"2", "eu"⟩ },
    { name := "www.x.", type := "A", ttl := some 60, values := ["192.0.2.3"] },
    { name := "www.x.", type := "A", ttl := some 90, values := ["192.0.2.4"],
      geoGroup := some ⟨"1", "eu"⟩ }]

/-- Territories of one group alone, by a region. -/
def spelledTerritories (id : String) : Except GeoError (List String) :=
  if id = "1" then .ok ["Europe"] else .error (.backend "t" id)

theorem ofRows_gives_items_of_spelledRows :
    Source.Steady (Source.fixed spelledTerritories) spelledTerritories () ∧
      (((ofRows "t" (some ⟨.single "Europe" ["Albania", "Andorra"]⟩) spelledRows).drain
          (Source.fixed spelledTerritories) .empty).run ()).answer =
        [.ok ⟨⟨"www.x.", "A", some 60,
            [.single "address" (.text "192.0.2.1"), .single "address" (.text "192.0.2.2")]⟩,
            .single "geo" (.geo ⟨"eu", ["Albania", "Andorra"], false⟩)⟩,
          .error (.contractViolation "t"
            "expected record to be in a geolocation group: www.x. A 192.0.2.3")] := by
  have hs := Source.fixed_steady spelledTerritories ()
  refine ⟨hs, ?_⟩
  rw [(ofRows_gives_items_of_runs hs "t" _ spelledRows).1]
  decide +kernel

end Grouping

end GeoRouting
