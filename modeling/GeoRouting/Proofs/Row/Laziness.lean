import GeoRouting.Proofs.Reader.Ending
import GeoRouting.Proofs.Watching

/-!
# Grouping is lazy

A pull of a grouping takes the rows of one run from their source, and one row more to see where the
run ends. It asks for the group of the first row of that run alone, and only when the cache does
not have it. After an error nothing is taken and nothing is asked for. Rows that are not taken have
no part in what pulls do, so a source may as well have no end.
-/

namespace GeoRouting

namespace TerritoryCache
variable {cache after : TerritoryCache} {ids : List String}

/-- Whether a cache has some ids and no others. -/
def Knows (cache : TerritoryCache) (ids : List String) : Prop :=
  ∀ id, cache.contains id = true ↔ id ∈ ids

theorem knows_empty : Knows .empty [] := by
  intro id
  simp [Dict.contains_eq_isSome]

/-- What is missing of one more id is what the ids, each once, do not have yet. -/
theorem Knows.eraseDups_append_missing (h : cache.Knows ids) (id : String) :
    ids.eraseDups ++ cache.missing id = (ids ++ [id]).eraseDups := by
  rw [List.eraseDups_append, missing]
  by_cases hid : id ∈ ids
  · rw [if_pos ((h id).mpr hid)]
    simp [List.removeAll, hid]
  · rw [if_neg fun hc => hid ((h id).mp hc)]
    simp [List.removeAll, hid, List.eraseDups_cons]

theorem Knows.append (h : cache.Knows ids) {id : String}
    (hadds : cache.Adds (cache.missing id) after) : after.Knows (ids ++ [id]) := by
  intro key
  rw [hadds key, h key, List.mem_append, List.mem_singleton, missing]
  split
  · rename_i hc
    constructor
    · exact fun hkey => .inl (hkey.resolve_right List.not_mem_nil)
    · rintro (hkey | rfl)
      · exact .inl hkey
      · exact .inl ((h key).mp hc)
  · rw [List.mem_singleton]

end TerritoryCache

/-- The ids of the groups that the first rows of some runs are in. -/
def Run.groupIds (runs : List (List Row)) : List String :=
  runs.filterMap fun run => (run.head?.bind Row.group?).map GroupRef.id

namespace Grouping
variable {σ : Type} {load : TerritorySource σ} {cache : TerritoryCache} {g : Grouping}

/-- Pulls a grouping that has a cache and watches its loader. -/
def nextWatched (load : TerritorySource σ) (p : TerritoryCache × Grouping) :
    Act (Watched σ String) (Option Item × TerritoryCache × Grouping) :=
  p.2.next (Source.watched load) p.1

/-- The watched loader after a number of pulls, with the cache and the grouping. -/
def reached (load : TerritorySource σ) (cache : TerritoryCache) (g : Grouping)
    (w : Watched σ String) (n : Nat) : (TerritoryCache × Grouping) × Watched σ String :=
  Item.reached (nextWatched load) (cache, g) w n

/-- What the pull after `n` others gives. -/
def given (load : TerritorySource σ) (cache : TerritoryCache) (g : Grouping)
    (w : Watched σ String) (n : Nat) : Option Item :=
  Item.given (nextWatched load) (cache, g) w n

/-! ## Pulls that give record sets -/

/-- A pull that gives a record set takes a run and one row more. It asks for the group of the first
row unless the cache has it. -/
theorem next_of_ok {w : Watched σ String} {ids : List String} (hcache : cache.Knows ids)
    (hcalls : w.calls = ids.eraseDups) {r : RoutedRecordSet}
    (h : ((nextWatched load (cache, g)).run w).answer.1 = some (.ok r)) :
    let out := (nextWatched load (cache, g)).run w
    ∃ first source group, g.rows.toList = first :: source ∧ first.group? = some group ∧
      out.answer.2.2.rows = .peeked (first.beyond source) ∧
      out.answer.2.1.Knows (ids ++ [group.id]) ∧
      out.state.calls = (ids ++ [group.id]).eraseDups := by
  intro out
  have hover : ¬ g.Over := by
    intro hover
    rw [nextWatched, next_of_over hover] at h
    cases h
  obtain ⟨hf, hr⟩ := not_or.mp hover
  rw [Bool.not_eq_true] at hf
  obtain ⟨first, source, hrows⟩ := List.exists_cons_of_ne_nil hr
  have hrun := @run_next_of_cons _ (Source.watched load) cache g w _ _ hf hrows
  have hitem : ((Run.build g.provider (Source.watched load) g.regions cache first source).run
      w).answer.1 = .ok r := by
    rw [nextWatched, hrun] at h
    exact Option.some.inj h
  obtain ⟨group, -, hgroup, -⟩ := Run.item_eq_ok.mp ((Run.build_item ..).symm.trans hitem)
  have hmissing : g.missing cache = cache.missing group.id := by
    rw [missing, hf, if_neg Bool.false_ne_true, RowStream.next?_eq_some.mpr hrows]
    change first.missing cache = _
    rw [Row.missing, hgroup]
  have hadds := adds_of_next h
  rw [hmissing] at hadds
  refine ⟨first, source, group, hrows, hgroup, ?_, hcache.append hadds, ?_⟩
  · change ((g.next (Source.watched load) cache).run w).answer.2.2.rows = _
    rw [hrun]
    exact Run.stream_build (congrArg Except.isOk hitem)
  · change ((g.next (Source.watched load) cache).run w).state.calls = _
    rw [state_next, Source.after_watched, hmissing, hcalls]
    exact hcache.eraseDups_append_missing group.id

/-- After pulls that gave record sets the rows of their runs are taken, and one row more. -/
theorem reached_of_given {w : Watched σ String} {ids : List String} (hcache : cache.Knows ids)
    (hcalls : w.calls = ids.eraseDups) {r : RoutedRecordSet} {sets : List RoutedRecordSet}
    (h : (List.range (sets.length + 1)).map (given load cache g w) =
      (r :: sets).map fun r => some (.ok r)) :
    let after := reached load cache g w (sets.length + 1)
    let runs := Row.runs g.rows.toList
    sets.length + 1 ≤ runs.length ∧
      after.1.2.rows = .peeked (runs.drop (sets.length + 1)).flatten ∧
      after.2.calls = (ids ++ Run.groupIds (runs.take (sets.length + 1))).eraseDups := by
  induction sets generalizing r g cache ids w with
  | nil =>
    obtain ⟨first, source, group, hrows, hgroup, hstream, -, hmade⟩ :=
      next_of_ok hcache hcalls (List.cons.inj h).1
    intro after runs
    have hruns : runs = (first :: first.others source) :: Row.runs (first.beyond source) := by
      rw [← Row.runs_cons, ← hrows]
    rw [hruns]
    refine ⟨by simp, ?_, ?_⟩
    · rw [List.length_nil, List.drop_one, List.tail_cons, Row.runs, List.flatten_splitBy]
      exact hstream
    · refine hmade.trans ?_
      simp [Run.groupIds, hgroup]
  | cons r' sets ih =>
    rw [List.length_cons, List.map_cons] at h
    obtain ⟨hitem, hrest⟩ := List.cons.inj
      ((Item.map_given_succ (nextWatched load) (cache, g) w (sets.length + 1)).symm.trans h)
    obtain ⟨first, source, group, hrows, hgroup, hstream, hknows, hmade⟩ :=
      next_of_ok hcache hcalls hitem
    intro after runs
    have hruns : runs = (first :: first.others source) :: Row.runs (first.beyond source) := by
      rw [← Row.runs_cons, ← hrows]
    obtain ⟨hlength, hafter, hcalls'⟩ := ih hknows hmade hrest
    have hreached : after = reached load ((nextWatched load (cache, g)).run w).answer.2.1
        ((nextWatched load (cache, g)).run w).answer.2.2 ((nextWatched load (cache, g)).run w).state
        (sets.length + 1) :=
      Item.reached_succ (nextWatched load) (cache, g) w (sets.length + 1)
    rw [hstream, RowStream.toList_peeked] at hlength hafter hcalls'
    rw [hreached, hruns]
    refine ⟨by simpa using hlength, hafter, ?_⟩
    rw [hcalls']
    simp [Run.groupIds, hgroup]

/-! ## Pulls after the end -/

/-- Nothing is taken and nothing is asked for once a grouping is over. -/
theorem reached_of_over {w : Watched σ String} {n : Nat}
    (h : (reached load cache g w n).1.2.Over) (m : Nat) :
    reached load cache g w (n + m) = reached load cache g w n ∧
      given load cache g w (n + m) = none := by
  have hnext := @next_of_over _ (Source.watched load) _ h (reached load cache g w n).1.1
    (reached load cache g w n).2
  have hsame : reached load cache g w (n + m) = reached load cache g w n := by
    induction m with
    | zero => rfl
    | succ m ih =>
      rw [← Nat.add_assoc, reached, Item.reached, ← reached, ih, nextWatched, hnext]
  refine ⟨hsame, ?_⟩
  rw [given, Item.given, ← reached, hsame, nextWatched, hnext]

theorem over_of_given_error {w : Watched σ String} {n : Nat} {e : GeoError}
    (h : given load cache g w n = some (.error e)) :
    (reached load cache g w (n + 1)).1.2.Over :=
  over_of_next fun r hr => by
    have hne := h.symm.trans hr
    cases hne

end Grouping

/-! ## Rows that are not taken -/

/-- A stream with more rows at the end of its source. -/
def RowStream.append (rows : RowStream) (more : List Row) : RowStream :=
  { rows with source := rows.source ++ more }

theorem RowStream.toList_append (rows : RowStream) (more : List Row) :
    (rows.append more).toList = rows.toList ++ more := by
  simp [append, toList]

namespace Run
variable {provider : String} {first : Row} {source : List Row}

/-- Where a run has ended before the source did, more rows behind make no difference. -/
theorem follow_append (h : (follow provider first source).2.toList ≠ []) (more : List Row) :
    follow provider first (source ++ more) =
      ((follow provider first source).1, (follow provider first source).2.append more) := by
  induction source with
  | nil => exact absurd rfl h
  | cons r rest ih =>
    rw [follow] at h ⊢
    rw [List.cons_append, follow]
    by_cases hr : r.sameRun first = true
    · rw [if_pos hr] at h ⊢
      rw [if_pos hr]
      cases hj : first.joining provider r with
      | error fault => rfl
      | ok own =>
        rw [hj] at h
        dsimp only
        rw [ih h]
    · rw [if_neg hr, if_neg hr]
      rfl

theorem gather_append (h : (gather provider first source).2.toList ≠ []) (more : List Row) :
    gather provider first (source ++ more) =
      ((gather provider first source).1, (gather provider first source).2.append more) := by
  rw [gather] at h ⊢
  rw [gather]
  cases hc : first.contribution provider with
  | error fault => rfl
  | ok own =>
    rw [hc] at h
    dsimp only
    rw [follow_append h]

theorem build_append {σ : Type} {load : TerritorySource σ} {regions : Option RegionTable}
    {cache : TerritoryCache} {s : σ}
    (h : ((build provider load regions cache first source).run s).answer.2.2.toList ≠ [])
    (more : List Row) :
    (build provider load regions cache first (source ++ more)).run s =
      let out := (build provider load regions cache first source).run s
      ⟨(out.answer.1, out.answer.2.1, out.answer.2.2.append more), out.state, out.log⟩ := by
  rw [build] at h ⊢
  rw [build]
  cases hgroup : first.group? with
  | none => rfl
  | some group =>
    simp only [hgroup, Act.run_bind] at h ⊢
    rcases hanswer : ((cache.resolve load regions group.id).run s).answer with ⟨e | codes, after⟩
    · rfl
    · rw [hanswer] at h
      have hgather : (gather provider first source).2.toList ≠ [] := by
        rcases hg : gather provider first source with ⟨fault | parts, stream⟩
        · rw [hg] at h
          exact h
        · rw [hg] at h
          exact h
      rw [gather_append hgather]
      rcases gather provider first source with ⟨fault | parts, stream⟩
      · rfl
      · rfl

end Run

namespace Grouping
variable {σ : Type} {load : TerritorySource σ} {cache : TerritoryCache} {g : Grouping} {s : σ}

/-- A grouping with more rows at the end of its source. -/
def append (g : Grouping) (more : List Row) : Grouping := { g with rows := g.rows.append more }

theorem toList_of_next (h : ((g.next load cache).run s).answer.2.2.rows.toList ≠ []) :
    g.rows.toList ≠ [] := by
  intro hnil
  rw [next_of_over (.inr hnil)] at h
  exact h hnil

/-- A pull that leaves a row does not see what is behind it. -/
theorem next_append (h : ((g.next load cache).run s).answer.2.2.rows.toList ≠ [])
    (more : List Row) :
    ((g.append more).next load cache).run s =
      let out := (g.next load cache).run s
      ⟨(out.answer.1, out.answer.2.1, out.answer.2.2.append more), out.state, out.log⟩ := by
  cases hf : g.failed with
  | true =>
    have happend : (g.append more).Over := .inl hf
    rw [next_of_over happend, next_of_over (.inl hf)]
  | false =>
    obtain ⟨first, source, hrows⟩ := List.exists_cons_of_ne_nil (toList_of_next h)
    have happend : (g.append more).rows.toList = first :: (source ++ more) := by
      rw [append, RowStream.toList_append, hrows, List.cons_append]
    rw [run_next_of_cons hf hrows] at h ⊢
    rw [run_next_of_cons (g := g.append more) hf happend]
    have hprovider : (g.append more).provider = g.provider := rfl
    have hregions : (g.append more).regions = g.regions := rfl
    rw [hprovider, hregions, Run.build_append h]
    rfl

theorem reached_append {w : Watched σ String} {n : Nat}
    (h : (reached load cache g w n).1.2.rows.toList ≠ []) (more : List Row) :
    reached load cache (g.append more) w n =
        (((reached load cache g w n).1.1, (reached load cache g w n).1.2.append more),
          (reached load cache g w n).2) ∧
      ∀ i < n, given load cache (g.append more) w i = given load cache g w i := by
  induction n with
  | zero => exact ⟨rfl, fun i hi => absurd hi (Nat.not_lt_zero i)⟩
  | succ n ih =>
    obtain ⟨hreached, hgiven⟩ := ih (toList_of_next h)
    have hnext := @next_append _ (Source.watched load) (reached load cache g w n).1.1
      (reached load cache g w n).1.2 (reached load cache g w n).2 h more
    refine ⟨?_, ?_⟩
    · rw [reached, Item.reached, ← reached, hreached]
      exact congrArg (fun out => (out.answer.2, out.state)) hnext
    · intro i hi
      rcases Nat.lt_succ_iff_lt_or_eq.mp hi with hi | rfl
      · exact hgiven i hi
      · rw [given, Item.given, ← reached, hreached]
        exact congrArg (fun out => out.answer.1) hnext

/-- After pulls of a fresh grouping that all gave record sets, the rows of as many runs are taken
and one row more, if there is one; and the loader has been asked for each group of the first rows
of these runs, once and in the order in which the groups first occur. After an error nothing is
taken and the loader is asked for nothing. As long as a row is left, all this is the same when more
rows follow. -/
theorem groupings_are_lazy (load : TerritorySource σ) (provider : String)
    (regions : Option RegionTable) (rows : List Row) (s : σ) :
    let after (rows : List Row) (n : Nat) :=
      reached load .empty (ofRows provider regions rows) ⟨s, []⟩ n
    let given (rows : List Row) (n : Nat) :=
      given load .empty (ofRows provider regions rows) ⟨s, []⟩ n
    (∀ sets : List RoutedRecordSet, sets ≠ [] →
      (List.range sets.length).map (given rows) = sets.map (fun r => some (.ok r)) →
        let passed := (Row.runs rows).take sets.length
        let beyond := ((Row.runs rows).drop sets.length).flatten
        passed.length = sets.length ∧ passed.flatten ++ beyond = rows ∧
          (after rows sets.length).1.2.rows.lookahead = beyond.head? ∧
          (after rows sets.length).1.2.rows.source = beyond.tail ∧
          (after rows sets.length).2.calls = (Run.groupIds passed).eraseDups) ∧
      (∀ n e, given rows n = some (.error e) → ∀ m,
        given rows (n + 1 + m) = none ∧ after rows (n + 1 + m) = after rows (n + 1)) ∧
      ∀ n more, (after rows n).1.2.rows.toList ≠ [] →
        after (rows ++ more) n =
            (((after rows n).1.1, (after rows n).1.2.append more), (after rows n).2) ∧
          ∀ i < n, given (rows ++ more) i = given rows i := by
  intro after given
  refine ⟨?_, ?_, ?_⟩
  · intro sets hsets hgiven passed beyond
    obtain ⟨r, sets, rfl⟩ := List.exists_cons_of_ne_nil hsets
    obtain ⟨hlength, hstream, hcalls⟩ :=
      reached_of_given TerritoryCache.knows_empty (w := ⟨s, []⟩) rfl hgiven
    refine ⟨List.length_take_of_le hlength, ?_, ?_, ?_, hcalls⟩
    · rw [← List.flatten_append, List.take_append_drop, Row.runs, List.flatten_splitBy]
    · exact congrArg RowStream.lookahead hstream
    · exact congrArg RowStream.source hstream
  · intro n e he m
    obtain ⟨hsame, hnone⟩ := reached_of_over (over_of_given_error he) m
    exact ⟨hnone, hsame⟩
  · intro n more h
    exact reached_append h more

/-- A row of one address. -/
def addressRow (ttl : UInt32) (address : String) (group : Option GroupRef) : Row :=
  { name := "a.z.", type := "A", ttl := some ttl, values := [address], geoGroup := group }

/-- Two runs of one group, a run of another, a row without a group and a row behind it. -/
def stoppedRows : List Row :=
  [addressRow 60 "192.0.2.1" (some ⟨"1", "eu"⟩), addressRow 60 "192.0.2.2" (some ⟨"1", "eu"⟩),
    addressRow 90 "192.0.2.3" (some ⟨"1", "eu"⟩), addressRow 90 "192.0.2.4" (some ⟨"2", "us"⟩),
    addressRow 90 "192.0.2.5" none, addressRow 90 "192.0.2.6" (some ⟨"3", "as"⟩)]

/-- The record set of some of these rows. -/
def stoppedSet (ttl : UInt32) (group : String) (addresses : List String) : RoutedRecordSet :=
  ⟨⟨"a.z.", "A", some ttl, addresses.map fun a => .single "address" (.text a)⟩,
    .single Route.geoKind (.geo ⟨group, ["BE"], false⟩)⟩

theorem groupings_are_lazy_of_stoppedRows :
    let load : TerritorySource Unit := .fixed fun _ => .ok ["BE"]
    let after (n : Nat) := reached load .empty (ofRows "t" none stoppedRows) ⟨(), []⟩ n
    let given (n : Nat) := given load .empty (ofRows "t" none stoppedRows) ⟨(), []⟩ n
    let sets := [stoppedSet 60 "eu" ["192.0.2.1", "192.0.2.2"], stoppedSet 90 "eu" ["192.0.2.3"],
      stoppedSet 90 "us" ["192.0.2.4"]]
    (List.range 3).map given = sets.map (fun r => some (.ok r)) ∧
      (after 3).1.2.rows = ⟨stoppedRows.drop 5, stoppedRows[4]?⟩ ∧
      (after 3).2.calls = ["1", "2"] ∧
      (∃ e, given 3 = some (.error e)) ∧
      ∀ m, given (4 + m) = none ∧ (after (4 + m)).2.calls = (after 4).2.calls := by
  intro load after given sets
  obtain ⟨hsets, herror, -⟩ := groupings_are_lazy load "t" none stoppedRows ()
  have hgiven : (List.range 3).map given = sets.map (fun r => some (.ok r)) := by decide +kernel
  obtain ⟨-, -, hahead, hsource, hcalls⟩ := hsets sets (by simp [sets]) hgiven
  have hlast : ∃ e, given 3 = some (.error e) := by
    refine ⟨(Violation.ungrouped "a.z." "A" ["192.0.2.5"]).error "t", ?_⟩
    decide +kernel
  refine ⟨hgiven, ?_, hcalls.trans (by decide +kernel), hlast, fun m => ?_⟩
  · change RowStream.mk (after 3).1.2.rows.source (after 3).1.2.rows.lookahead = _
    rw [show (after 3).1.2.rows.source = _ from hsource,
      show (after 3).1.2.rows.lookahead = _ from hahead]
    decide +kernel
  · obtain ⟨e, he⟩ := hlast
    obtain ⟨hnone, hsame⟩ := herror 3 e he m
    exact ⟨hnone, congrArg (fun w => w.2.calls) hsame⟩

end Grouping

end GeoRouting
