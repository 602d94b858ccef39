import GeoRouting.Dict.Lookup
import GeoRouting.Proofs.Steady

/-!
# Resolving over unchanging territories

When the loader answers from fixed data, what a group resolves to is a function of its id: the
loaded list, expanded by the region table. A cache that holds only such answers cannot be told
from an empty one, and resolving keeps it so.
-/

namespace GeoRouting.TerritoryCache
variable {σ : Type}

/-- A loaded list as a resolver answers with it. -/
def expanded (regions : Option RegionTable) (loaded : List String) : List String :=
  (regions.map fun table => table.expand loaded).getD loaded

/-- The cache once there is an answer to a group that it did not hold. Errors are not kept. -/
def keeping (cache : TerritoryCache) (id : String) :
    Except GeoError (List String) → TerritoryCache
  | .ok codes => cache.insert id codes
  | .error _ => cache

theorem run_resolve_hit {cache : TerritoryCache} {id : String} {codes : List String}
    (h : cache.get? id = some codes) (load : TerritorySource σ) (regions : Option RegionTable)
    (s : σ) : (cache.resolve load regions id).run s = ⟨(.ok codes, cache), s, []⟩ := by
  simp only [resolve, h]
  rfl

theorem run_resolve_miss {cache : TerritoryCache} {id : String} (h : cache.get? id = none)
    (load : TerritorySource σ) (regions : Option RegionTable) (s : σ) :
    (cache.resolve load regions id).run s =
      let answer := (load id s).1.map (expanded regions)
      ⟨(answer, cache.keeping id answer), (load id s).2,
        [⟨.trace, s!"loading territories for group {id}"⟩]⟩ := by
  simp only [resolve, h, Act.run_bind, Act.run_say, Source.run_ask]
  cases (load id s).1 with
  | error e => rfl
  | ok loaded => cases regions <;> rfl

/-- A load that fails leaves the cache as it is. -/
theorem cache_of_resolve_error {load : TerritorySource σ} {regions : Option RegionTable}
    {cache : TerritoryCache} {id : String} {s : σ} {e : GeoError}
    (h : ((cache.resolve load regions id).run s).answer.1 = .error e) :
    ((cache.resolve load regions id).run s).answer.2 = cache := by
  cases hg : cache.get? id with
  | some codes =>
    rw [run_resolve_hit hg] at h
    cases h
  | none =>
    rw [run_resolve_miss hg] at h ⊢
    dsimp only at h ⊢
    rw [h]
    rfl

/-- What groups resolve to when their territories are loaded from `data`. -/
def resolved (regions : Option RegionTable) (data : String → Except GeoError (List String))
    (id : String) : Except GeoError (List String) :=
  (data id).map (expanded regions)

section
variable {territories : String → Except GeoError (List String)}

/-- Every entry is what its group resolves to. -/
def Holds (territories : String → Except GeoError (List String)) (cache : TerritoryCache) : Prop :=
  ∀ id codes, cache.get? id = some codes → territories id = .ok codes

theorem holds_empty : Holds territories .empty := by
  intro id codes h
  simp at h

theorem Holds.insert {cache : TerritoryCache} (hc : Holds territories cache) {id : String}
    {codes : List String} (h : territories id = .ok codes) :
    Holds territories (Dict.insert cache id codes) := by
  intro key value hk
  rw [Dict.get?_insert] at hk
  split at hk
  · rename_i he
    rw [← he, h, Option.some.inj hk]
  · exact hc key value hk

theorem Holds.keeping {cache : TerritoryCache} (hc : Holds territories cache) {id : String}
    {answer : Except GeoError (List String)} (h : territories id = answer) :
    Holds territories (cache.keeping id answer) := by
  cases answer with
  | error e => exact hc
  | ok codes => exact hc.insert h

end

/-- Whether a group is in the cache or not, resolving it gives the same answer. -/
theorem resolve_steady {load : TerritorySource σ} {data : String → Except GeoError (List String)}
    {s : σ} (hs : load.Steady data s) {regions : Option RegionTable} {cache : TerritoryCache}
    (hc : Holds (resolved regions data) cache) (id : String) :
    let out := (cache.resolve load regions id).run s
    load.Reaches s out.state ∧ Holds (resolved regions data) out.answer.2 ∧
      out.answer.1 = resolved regions data id := by
  cases hg : cache.get? id with
  | some codes =>
    rw [run_resolve_hit hg]
    exact ⟨Source.reaches_refl s, hc, (hc id codes hg).symm⟩
  | none =>
    rw [run_resolve_miss hg, hs.answer id]
    exact ⟨Source.reaches_call id s, hc.keeping rfl, rfl⟩

end GeoRouting.TerritoryCache
