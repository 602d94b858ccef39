import GeoRouting.Proofs.Row.RunItem

/-!
# What is asked of a source

What a computation asks of its source is known from the state it leaves: the one that the source is
in after those calls. A watched source has written them down. Resolving a group asks for its
territories unless they are in the cache, and so does building the run of a first row. Nothing else
in a run is asked for.
-/

namespace GeoRouting.Source
variable {Call : Type} {Reply : Call → Type} {σ : Type}

/-- A watched source answers as the source and knows the calls in their order. -/
theorem after_watched (source : Source Call Reply σ) (calls : List Call) (w : Watched σ Call) :
    source.watched.after calls w = ⟨source.after calls w.source, w.calls ++ calls⟩ := by
  induction calls generalizing w with
  | nil => simp [after]
  | cons c calls ih =>
    change source.watched.after calls (source.watched c w).2 = _
    rw [ih]
    simp [after, watched]

theorem calls_of_reaches {source : Source Call Reply σ} {w v : Watched σ Call}
    (h : source.watched.Reaches w v) : w.calls <+: v.calls := by
  obtain ⟨calls, rfl⟩ := h
  rw [after_watched]
  exact List.prefix_append w.calls calls

theorem watched_steady {source : Source Call Reply σ}
    {data : (c : Call) → Except GeoError (Reply c)} {s : σ} (h : source.Steady data s)
    (calls : List Call) : source.watched.Steady data ⟨s, calls⟩ := by
  intro later c
  rw [after_watched]
  exact h later c

end GeoRouting.Source

namespace GeoRouting

/-! ## Loads -/

namespace TerritoryCache
variable {σ : Type} {load : TerritorySource σ} {regions : Option RegionTable}

/-- The ids to load before a group is resolved: its own, unless the cache has it. -/
def missing (cache : TerritoryCache) (id : String) : List String :=
  if cache.contains id then [] else [id]

/-- Whether a cache holds the ids of another one and some more ids, and no others. -/
def Adds (cache : TerritoryCache) (ids : List String) (after : TerritoryCache) : Prop :=
  ∀ id, after.contains id = true ↔ cache.contains id = true ∨ id ∈ ids

theorem adds_nil (cache : TerritoryCache) : cache.Adds [] cache := by simp [Adds]

theorem nodup_missing (cache : TerritoryCache) (id : String) : (cache.missing id).Nodup := by
  unfold missing
  split <;> simp

theorem not_contains_of_mem_missing {cache : TerritoryCache} {id key : String}
    (h : key ∈ cache.missing id) : cache.contains key = false := by
  unfold missing at h
  split at h
  · cases h
  · rename_i hc
    rw [List.mem_singleton.mp h]
    exact Bool.eq_false_iff.mpr hc

theorem state_resolve (cache : TerritoryCache) (id : String) (s : σ) :
    ((cache.resolve load regions id).run s).state = load.after (cache.missing id) s := by
  rw [missing, Dict.contains_eq_isSome]
  cases h : cache.get? id with
  | some codes =>
    rw [run_resolve_hit h]
    rfl
  | none =>
    rw [run_resolve_miss h]
    rfl

theorem adds_of_resolve {cache : TerritoryCache} {id : String} {s : σ} {codes : List String}
    (h : ((cache.resolve load regions id).run s).answer.1 = .ok codes) :
    cache.Adds (cache.missing id) ((cache.resolve load regions id).run s).answer.2 := by
  rw [missing, Dict.contains_eq_isSome]
  cases hg : cache.get? id with
  | some kept =>
    rw [run_resolve_hit hg]
    exact adds_nil cache
  | none =>
    rw [run_resolve_miss hg] at h ⊢
    dsimp only at h ⊢
    rw [h]
    intro key
    simp only [keeping, Dict.contains_eq_isSome, Dict.get?_insert]
    by_cases hk : id = key
    · simp [hk]
    · simp [hk, Ne.symm hk]

end TerritoryCache

/-- The ids to load before the run of a first row is built. -/
def Row.missing (cache : TerritoryCache) (first : Row) : List String :=
  match first.group? with
  | none => []
  | some group => cache.missing group.id

/-- The ids to load before the next record set of a grouping. -/
def Grouping.missing (cache : TerritoryCache) (g : Grouping) : List String :=
  if g.failed then []
  else
    match g.rows.next? with
    | none => []
    | some (first, _) => first.missing cache

namespace Run
variable {σ : Type} {provider : String} {load : TerritorySource σ} {regions : Option RegionTable}
  {cache : TerritoryCache} {first : Row} {source : List Row} {s : σ}

theorem state_build :
    ((build provider load regions cache first source).run s).state =
      load.after (first.missing cache) s := by
  rw [Row.missing]
  cases hgroup : first.group? with
  | none =>
    rw [build, hgroup]
    simp only [Act.run_bind, Act.run_pure, RunFault.state_report]
    rfl
  | some group =>
    rw [(cache_state_build hgroup).2]
    exact TerritoryCache.state_resolve cache group.id s

theorem adds_of_build
    (h : ((build provider load regions cache first source).run s).answer.1.isOk = true) :
    cache.Adds (first.missing cache)
      ((build provider load regions cache first source).run s).answer.2.1 := by
  rw [Row.missing]
  cases hgroup : first.group? with
  | none =>
    rw [build, hgroup] at h
    cases h
  | some group =>
    rw [(cache_state_build hgroup).1]
    cases hr : ((cache.resolve load regions group.id).run s).answer.1 with
    | error e =>
      rw [build_of_unresolved hgroup hr] at h
      cases h
    | ok codes => exact TerritoryCache.adds_of_resolve hr

end Run

namespace Grouping
variable {σ : Type} {load : TerritorySource σ} {cache : TerritoryCache} {g : Grouping} {s : σ}

/-- A grouping that has not failed builds the run of its next row. -/
theorem run_next_of_cons {first : Row} {source : List Row} (hf : g.failed = false)
    (hr : g.rows.toList = first :: source) :
    (g.next load cache).run s =
      let built := (Run.build g.provider load g.regions cache first source).run s
      ⟨(some built.answer.1, built.answer.2.1,
          { g with rows := built.answer.2.2, failed := !built.answer.1.isOk }),
        built.state, built.log⟩ := by
  rw [next, hf, if_neg Bool.false_ne_true, RowStream.next?_eq_some.mpr hr]
  simp

theorem state_next : ((g.next load cache).run s).state = load.after (g.missing cache) s := by
  rw [next, missing]
  cases g.failed with
  | true => rfl
  | false =>
    rw [if_neg Bool.false_ne_true, if_neg Bool.false_ne_true]
    cases g.rows.next? with
    | none => rfl
    | some p => exact Run.state_build

theorem adds_of_next {r : RoutedRecordSet}
    (h : ((g.next load cache).run s).answer.1 = some (.ok r)) :
    cache.Adds (g.missing cache) ((g.next load cache).run s).answer.2.1 := by
  rw [next] at h ⊢
  rw [missing]
  cases hf : g.failed with
  | true =>
    rw [hf] at h
    cases h
  | false =>
    rw [hf, if_neg Bool.false_ne_true] at h
    rw [if_neg Bool.false_ne_true, if_neg Bool.false_ne_true]
    cases hn : g.rows.next? with
    | none =>
      rw [hn] at h
      cases h
    | some p =>
      rw [hn] at h
      apply Run.adds_of_build
      exact congrArg Except.isOk (Option.some.inj h)

end Grouping

end GeoRouting
