import GeoRouting.Dict.Lookup
import GeoRouting.Pool.Store
import GeoRouting.Proofs.Partition

/-!
# Every row has one pool

In a store that was built by changes, no two pools of a zone have the same name and every row has
a pool of its name. So the buckets of the pools that choose by location hold the rows of these
pools, each row once, and no others.
-/

namespace GeoRouting

open DomainName (same)

/-- Of pools with different names one has a name that some of them has. -/
theorem Pool.countP_same {pools : List Pool}
    (h : pools.Pairwise fun p q => same p.name q.name = false) {name : String}
    (hname : ∃ p ∈ pools, same p.name name = true) :
    (pools.countP fun p => same p.name name) = 1 := by
  induction pools with
  | nil => simp at hname
  | cons p pools ih =>
    rw [List.pairwise_cons] at h
    rw [List.countP_cons]
    by_cases hp : same p.name name = true
    · have hrest : (pools.countP fun q => same q.name name) = 0 := by
        rw [List.countP_eq_zero]
        intro q hq hsame
        have hpq := DomainName.same_trans hp (DomainName.same_symm hsame)
        rw [h.1 q hq] at hpq
        cases hpq
      rw [hrest, if_pos hp]
    · obtain ⟨q, hq, hsame⟩ := hname
      have hmem : q ∈ pools := by
        rcases List.mem_cons.mp hq with rfl | hq
        · exact absurd hsame hp
        · exact hq
      rw [ih h.2 ⟨q, hmem, hsame⟩, if_neg hp]

namespace PoolZone

/-- What changes keep: pools have different names and no row is without a pool. -/
structure Owned (z : PoolZone) : Prop where
  apart : z.pools.Pairwise fun p q => same p.name q.name = false
  pooled : ∀ e ∈ z.rows, z.hasPool e.2.name = true

theorem owned_empty : Owned {} := ⟨.nil, by simp⟩

theorem hasPool_iff {z : PoolZone} {name : String} :
    z.hasPool name = true ↔ ∃ p ∈ z.pools, same p.name name = true := by
  unfold hasPool
  exact List.any_eq_true

theorem hasPool_addPool_self (z : PoolZone) (pool : Pool) :
    (z.addPool pool).hasPool pool.name = true := by
  unfold addPool
  split
  · assumption
  · rw [hasPool_iff]
    exact ⟨pool, List.mem_append_right _ List.mem_cons_self, DomainName.same_refl pool.name⟩

theorem hasPool_addPool {z : PoolZone} {name : String} (h : z.hasPool name = true) (pool : Pool) :
    (z.addPool pool).hasPool name = true := by
  unfold addPool
  split
  · exact h
  · obtain ⟨p, hp, hsame⟩ := hasPool_iff.mp h
    exact hasPool_iff.mpr ⟨p, List.mem_append_left _ hp, hsame⟩

theorem rows_addPool (z : PoolZone) (pool : Pool) : (z.addPool pool).rows = z.rows := by
  unfold addPool
  split <;> rfl

theorem Owned.addPool {z : PoolZone} (h : z.Owned) (pool : Pool) : (z.addPool pool).Owned := by
  constructor
  · unfold PoolZone.addPool
    split
    · exact h.apart
    · rename_i hnew
      rw [List.pairwise_append]
      refine ⟨h.apart, List.pairwise_singleton _ _, ?_⟩
      intro p hp q hq
      rw [List.mem_singleton.mp hq, Bool.eq_false_iff]
      intro hsame
      exact hnew (hasPool_iff.mpr ⟨p, hp, hsame⟩)
  · intro e he
    rw [rows_addPool] at he
    exact hasPool_addPool (h.pooled e he) pool

theorem Owned.addRow {z : PoolZone} (h : z.Owned) (bucket : Bucket) (row : Row) :
    (z.addRow bucket row).Owned := by
  have hpool := h.addPool ⟨row.name, .geolocation⟩
  constructor
  · exact hpool.apart
  · intro e he
    rcases List.mem_append.mp he with he | he
    · exact hpool.pooled e he
    · rw [List.mem_singleton.mp he]
      exact hasPool_addPool_self z ⟨row.name, .geolocation⟩

end PoolZone

namespace PoolStore

/-- Whether every row of every zone has one pool. -/
def Owned (s : PoolStore) : Prop := ∀ zone z, s.zones.get? zone = some z → z.Owned

theorem Owned.insert {s : PoolStore} (h : s.Owned) {z : PoolZone} (hz : z.Owned) (zone : String) :
    Owned { s with zones := s.zones.insert zone z } := by
  intro other y hy
  rw [Dict.get?_insert] at hy
  split at hy
  · rw [← Option.some.inj hy]
    exact hz
  · exact h other y hy

theorem Owned.changeZone {s : PoolStore} (h : s.Owned) (zone : String) {f : PoolZone → PoolZone}
    (hf : ∀ z : PoolZone, z.Owned → (f z).Owned) :
    Owned ((PoolStore.changeZone zone f).run.run s).state := by
  cases hz : s.zones.get? zone with
  | none =>
    rw [run_changeZone_of_absent hz]
    exact h
  | some z =>
    rw [run_changeZone_of_present hz]
    exact h.insert (hf z (h zone z hz)) zone

theorem Owned.after {s : PoolStore} (h : s.Owned) (c : Change) : Owned (s.after c) := by
  cases c with
  | addZone zone =>
    rw [after_addZone]
    split
    · exact h
    · exact h.insert PoolZone.owned_empty zone
  | addPool zone pool => exact h.changeZone zone fun z hz => hz.addPool pool
  | addRow zone bucket row => exact h.changeZone zone fun z hz => hz.addRow bucket row
  | setTerritories groupId territories => exact h

theorem owned_ofHistory (changes : List Change) : Owned (ofHistory changes) := by
  refine List.foldlRecOn changes after ?_ fun s hs c _ => hs.after c
  intro zone z hz
  cases hz

theorem Owned.zone {s : PoolStore} (h : s.Owned) {zone : String} {z : PoolZone}
    (hz : s.zone zone = .ok z) : z.Owned := by
  unfold PoolStore.zone at hz
  split at hz
  · rename_i y hy
    rw [← Except.ok.inj hz]
    exact h zone y hy
  · cases hz

end PoolStore

end GeoRouting
