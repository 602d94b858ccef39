import GeoRouting.Pool.Store
import GeoRouting.Proofs.Pool.ListingItems
import GeoRouting.Proofs.Rdata.Layout
import GeoRouting.Proofs.Row.Accounting
import GeoRouting.Service.Reader
import GeoRouting.Service.Store

/-!
# The form of record sets

Whatever rows, pools, services and territories a backend answers with, a record set that is read
from it has a name and a type, one geographic route and data in the layout of its type. It has
data and territories, or it answers nothing on purpose.
-/

namespace GeoRouting

/-- Whether a route goes with the data that it routes. -/
structure GeoRoute.Suits (g : GeoRoute) (rdata : List Rdata) : Prop where
  group : g.group ≠ ""
  silent : rdata = [] ↔ g.noResponse = true
  territories : g.noResponse = false → g.territories ≠ []

/-- The form that all record sets have, whatever backend they come from. -/
structure RoutedRecordSet.Canonical (r : RoutedRecordSet) : Prop where
  name : r.name ≠ ""
  type : r.type ≠ ""
  route : ∃ g, r.routes.entries = [("geo", .geo g)] ∧ g.Suits r.records.rdata
  rdata : ∀ d ∈ r.records.rdata, ∃ fields, Rdata.layout? r.type = some fields ∧ d.Fits fields

/-! ## What is built of rows -/

namespace Row

theorem refusals_eq_nil {first : Row} {group : GroupRef} {codes : List String} :
    first.refusals group codes = [] ↔ first.name ≠ "" ∧ first.type ≠ "" ∧ group.name ≠ "" ∧
      (first.noResponse = false → codes ≠ []) := by
  simp only [refusals, List.append_eq_nil_iff, ite_eq_right_iff, List.cons_ne_nil, imp_false,
    not_and, and_assoc, ne_eq]

theorem convert_of_mem_data {provider : String} {r : Row} {d : Rdata}
    (h : d ∈ r.data provider) : Rdata.convert provider r.type r.values = .ok d := by
  unfold data at h
  split at h
  · cases h
  · cases hc : Rdata.convert provider r.type r.values with
    | error e =>
      rw [hc] at h
      cases h
    | ok d' =>
      rw [hc] at h
      rw [List.mem_singleton.mp h]

end Row

theorem Run.Makes.canonical {provider : String}
    {territories : String → Except GeoError (List String)} {run : List Row} {r : RoutedRecordSet}
    (h : Run.Makes provider territories run r) : r.Canonical := by
  obtain ⟨first, others, rfl, hagree, hitem⟩ := h
  obtain ⟨group, codes, -, -, hfirst, hjoin, hrefusals, rfl⟩ := Run.item_eq_ok.mp hitem
  obtain ⟨hname, htype, hgroup, hcodes⟩ := Row.refusals_eq_nil.mp hrefusals
  have hempty := Run.isEmpty_data hfirst hjoin
  refine ⟨hname, htype, ⟨_, rfl, hgroup, ?_, hcodes⟩, ?_⟩
  · rw [← hempty, List.isEmpty_iff]
  · intro d hd
    obtain ⟨row, hrow, hd⟩ := List.mem_flatMap.mp hd
    have hrowtype : row.type = first.type := by
      rcases List.mem_cons.mp hrow with rfl | hrow
      · rfl
      · exact (Row.fields_of_agrees (hagree row hrow)).1.symm
    exact hrowtype ▸ Rdata.fits_of_convert (Row.convert_of_mem_data hd)

/-! ## What a pull gives -/

/-- A grouping gives record sets that are made of runs, in whatever state of its source. -/
theorem Grouping.makes_of_next {σ : Type} {load : TerritorySource σ} {cache : TerritoryCache}
    {g : Grouping} {s : σ} {r : RoutedRecordSet}
    (h : ((g.next load cache).run s).answer.1 = some (.ok r)) :
    ∃ territories run, Run.Makes g.provider territories run r := by
  rw [next] at h
  split at h
  · cases h
  · split at h
    · cases h
    · rename_i first source _
      simp only [Act.run_bind, Act.run_pure] at h
      rw [Run.build_item] at h
      refine ⟨_, first :: first.others source, first, _, rfl, ?_, Option.some.inj h⟩
      intro row hrow
      have hsame := Row.sameRun_of_mem_others hrow
      rw [Row.sameRun_eq_agrees] at hsame
      exact Row.agrees_symm hsame

theorem BucketCursor.canonical_of_next {σ : Type} {source : PoolSource σ}
    {cache : TerritoryCache} {c : BucketCursor} {s : σ} {r : RoutedRecordSet}
    (h : ((c.next source cache).run s).answer.1 = some (.ok r)) : r.Canonical := by
  cases c with
  | idle => cases h
  | broken e => cases h
  | rows g =>
    obtain ⟨_, _, hmakes⟩ := Grouping.makes_of_next h
    exact hmakes.canonical

/-- What a bucket gives after items that are not kept it gives by itself later on. -/
theorem BucketCursor.exists_next_of_nextKept {σ : Type} {source : PoolSource σ}
    {only : Option String} {cache : TerritoryCache} {c : BucketCursor} {s : σ} {item : Item}
    (h : ((c.nextKept source only cache).run s).answer.1 = some item) :
    ∃ c' cache' s', ((next source cache' c').run s').answer.1 = some item := by
  by_cases hk : ∀ i ∈ ((c.next source cache).run s).answer.1, keeps only i = true
  · rw [(run_nextKept_of_keeps hk).1] at h
    exact ⟨c, cache, s, h⟩
  · obtain ⟨i, hi, hdropped⟩ : ∃ i ∈ ((c.next source cache).run s).answer.1,
        keeps only i = false := by simpa using hk
    rw [(run_nextKept_of_not_keeps hi hdropped).1] at h
    exact exists_next_of_nextKept h
termination_by c.size
decreasing_by exact next_size (Option.isSome_of_mem hi)

theorem PoolListing.exists_next_of_advance {σ : Type} {source : PoolSource σ} {l : PoolListing}
    {cache : TerritoryCache} {cursor : BucketCursor} {pending : List (String × Bucket)} {s : σ}
    {item : Item}
    (h : ((advance source l cache cursor pending).run s).answer.1 = some item) :
    ∃ c' cache' s', ((BucketCursor.next source cache' c').run s').answer.1 = some item := by
  induction pending generalizing cache cursor s with
  | nil => exact BucketCursor.exists_next_of_nextKept h
  | cons b pending ih =>
    simp only [advance, Act.run_bind] at h
    cases hk : ((cursor.nextKept source l.only cache).run s).answer.1 with
    | some i =>
      rw [hk] at h
      exact BucketCursor.exists_next_of_nextKept (hk.trans h)
    | none =>
      rw [hk] at h
      exact ih h

theorem PoolListing.canonical_of_next {σ : Type} {source : PoolSource σ} {l : PoolListing} {s : σ}
    {r : RoutedRecordSet} (h : ((next source l).run s).answer.1 = some (.ok r)) :
    r.Canonical := by
  rw [next] at h
  simp only [Act.run_bind] at h
  split at h
  · cases h
  · split at h
    · cases h
    · rename_i hitem
      obtain ⟨_, _, _, hnext⟩ := exists_next_of_advance (hitem.trans h)
      exact BucketCursor.canonical_of_next hnext

/-! ## What a reader gives -/

namespace Reader
variable {σ ℓ : Type}

/-- Whether a record set is in a listing of a reader, or got from it, in some state of its
backend. -/
inductive Gives (reader : Reader σ ℓ) (r : RoutedRecordSet) : Prop
  | pulled {selection s l n t} (hl : ((reader.list selection).run.run s).answer = .ok l)
      (h : some (.ok r) ∈ ((reader.pull l n).run t).answer.1)
  | drained {selection s l t} (hl : ((reader.list selection).run.run s).answer = .ok l)
      (h : .ok r ∈ ((reader.drain l).run t).answer)
  | got {target s} (h : ((reader.get target).run.run s).answer = .ok (some r))

theorem exists_next_of_mem_pull {reader : Reader σ ℓ} {l : ℓ} {n : Nat} {s : σ} {item : Item}
    (h : some item ∈ ((reader.pull l n).run s).answer.1) :
    ∃ l' s', ((reader.next l').run s').answer.1 = some item := by
  induction n generalizing l s with
  | zero => cases h
  | succ n ih =>
    simp only [pull, Act.run_bind, Act.run_pure] at h
    rcases List.mem_cons.mp h with h | h
    · exact ⟨l, s, h.symm⟩
    · exact ih h

theorem exists_next_of_mem_drain {reader : Reader σ ℓ}
    (hd : Item.DrainsByPulls reader.next reader.drain)
    {l : ℓ} {s : σ} {item : Item} (h : item ∈ ((reader.drain l).run s).answer) :
    ∃ l' s', ((reader.next l').run s').answer.1 = some item := by
  generalize hitems : ((reader.drain l).run s).answer = items at h
  induction items generalizing l s with
  | nil => cases h
  | cons x items ih =>
    have hout := hd l s
    rw [hitems] at hout
    dsimp only at hout
    split at hout
    · cases hout
    · rename_i e hnext
      obtain ⟨rfl, rfl⟩ := List.cons.inj hout
      rw [List.mem_singleton.mp h]
      exact ⟨l, s, hnext⟩
    · rename_i r hnext
      obtain ⟨rfl, hrest⟩ := List.cons.inj hout
      rcases List.mem_cons.mp h with rfl | h
      · exact ⟨l, s, hnext⟩
      · exact ih hrest.symm h

/-- What pulls give and what targets are answered with is all that a reader gives. -/
theorem Gives.of_next_of_get {reader : Reader σ ℓ} {P : RoutedRecordSet → Prop}
    (hdrain : Item.DrainsByPulls reader.next reader.drain)
    (hnext : ∀ l s r, ((reader.next l).run s).answer.1 = some (.ok r) → P r)
    (hget : ∀ target s r, ((reader.get target).run.run s).answer = .ok (some r) → P r)
    {r : RoutedRecordSet} (h : reader.Gives r) : P r := by
  cases h with
  | pulled _ h =>
    obtain ⟨l, s, h⟩ := exists_next_of_mem_pull h
    exact hnext l s r h
  | drained _ h =>
    obtain ⟨l, s, h⟩ := exists_next_of_mem_drain hdrain h
    exact hnext l s r h
  | got h => exact hget _ _ r h

end Reader

theorem Pool.canonical_of_getTarget {σ : Type} {source : PoolSource σ} {zone : String}
    {regions : RegionTable} {target : Target} {s : σ} {r : RoutedRecordSet}
    (h : ((getTarget source zone regions target).run.run s).answer = .ok (some r)) :
    r.Canonical := by
  obtain ⟨t, -, h⟩ := Query.bind_eq_ok.mp h
  obtain ⟨-, -, h⟩ := Query.bind_eq_ok.mp h
  obtain ⟨rows, -, h⟩ := Query.bind_eq_ok.mp h
  obtain ⟨⟨item, rest⟩, hitem, h⟩ := Query.bind_eq_ok.mp h
  rw [Query.run_lift] at hitem
  cases item with
  | none => cases h
  | some item =>
    obtain ⟨r', hr, h⟩ := Query.bind_eq_ok.mp h
    cases h
    rw [Query.run_ofExcept] at hr
    cases hr
    obtain ⟨_, _, hmakes⟩ :=
      Grouping.makes_of_next (congrArg Prod.fst (Except.ok.inj hitem))
    exact hmakes.canonical

theorem GeoService.canonical_of_next {σ : Type} {l : ServiceListing} {s : σ} {r : RoutedRecordSet}
    (h : ((next l).run s).answer.1 = some (.ok r)) : r.Canonical := by
  obtain ⟨_, _, hmakes⟩ := Grouping.makes_of_next (g := l.grouping) h
  exact hmakes.canonical

theorem GeoService.canonical_of_getTarget {σ : Type} {source : ServiceSource σ} {zone : String}
    {regions : RegionTable} {target : Target} {s : σ} {r : RoutedRecordSet}
    (h : ((getTarget source zone regions target).run.run s).answer = .ok (some r)) :
    r.Canonical := by
  obtain ⟨t, -, h⟩ := Query.bind_eq_ok.mp h
  obtain ⟨l, -, h⟩ := Query.bind_eq_ok.mp h
  obtain ⟨⟨item, rest⟩, hitem, h⟩ := Query.bind_eq_ok.mp h
  rw [Query.run_lift] at hitem
  cases item with
  | none => cases h
  | some item =>
    obtain ⟨r', hr, h⟩ := Query.bind_eq_ok.mp h
    cases h
    rw [Query.run_ofExcept] at hr
    cases hr
    exact canonical_of_next (congrArg Prod.fst (Except.ok.inj hitem))

/-- Every record set that is read from directional pools or from geo services has the form of
record sets, whatever the backend answers with. -/
theorem Reader.canonical_of_gives :
    (∀ {σ : Type} (source : PoolSource σ) regions zone s reader,
      ((Pool.reader source regions zone).run.run s).answer = .ok reader →
        ∀ r, reader.Gives r → r.Canonical) ∧
    ∀ {σ : Type} (source : ServiceSource σ) regions zone s reader,
      ((GeoService.reader source regions zone).run.run s).answer = .ok reader →
        ∀ r, reader.Gives r → r.Canonical := by
  constructor
  · intro σ source regions zone s reader h r hr
    obtain ⟨_, -, hreader⟩ := Query.bind_eq_ok.mp h
    cases hreader
    refine Gives.of_next_of_get ?_ ?_ ?_ hr
    · exact PoolListing.answer_drain source
    · exact fun _ _ _ => PoolListing.canonical_of_next
    · exact fun _ _ _ => Pool.canonical_of_getTarget
  · intro σ source regions zone s reader h r hr
    obtain ⟨_, -, hreader⟩ := Query.bind_eq_ok.mp h
    cases hreader
    refine Gives.of_next_of_get ?_ ?_ ?_ hr
    · intro l
      exact Grouping.answer_drain (GeoService.territories l.countries) (l.cache, l.grouping)
    · exact fun _ _ _ => GeoService.canonical_of_next
    · exact fun _ _ _ => GeoService.canonical_of_getTarget

/-- A row that answers nothing although it has values, to a group that covers nothing. -/
def silentPools : PoolStore := .ofHistory
  [.addZone "z.",
    .addRow "z." .ipv4
      { name := "a.z.", type := "A", ttl := none, values := ["192.0.2.1"], noResponse := true,
        geoGroup := some ⟨"1", "eu"⟩ },
    .setTerritories "1" []]

def silentSet : RoutedRecordSet :=
  ⟨⟨"a.z.", "A", none, []⟩, .single Route.geoKind (.geo ⟨"eu", [], true⟩)⟩

/-- A number that is not written as numbers are printed. -/
def exchangeServices : ServiceStore := .ofHistory
  [.addZone "z.",
    .putService ⟨"s", [⟨"z.", "a.z."⟩],
      [⟨"eu", ["BE"], [⟨"MX", none, [["+0010", "mx.z."]]⟩]⟩]⟩]

def exchangeSet : RoutedRecordSet :=
  ⟨⟨"a.z.", "MX", none,
      [.ofList [("preference", .number (.integer 10)), ("exchange", .text "mx.z.")]]⟩,
    .single Route.geoKind (.geo ⟨"eu", ["BE"], false⟩)⟩

theorem Reader.canonical_of_gives_silent_exchange :
    (∃ reader, ((Pool.reader PoolStore.source ⟨.empty⟩ "z.").run.run silentPools).answer =
        .ok reader ∧
      ((reader.get ⟨"A.z", "a", "eu"⟩).run.run silentPools).answer = .ok (some silentSet) ∧
      silentSet.Canonical) ∧
    ∃ reader l,
      ((GeoService.reader ServiceStore.source ⟨.empty⟩ "z.").run.run exchangeServices).answer =
        .ok reader ∧
      ((reader.list .all).run.run exchangeServices).answer = .ok l ∧
      ((reader.pull l 2).run exchangeServices).answer.1 = [some (.ok exchangeSet), none] ∧
      exchangeSet.Canonical := by
  obtain ⟨hpools, hservices⟩ := canonical_of_gives
  constructor
  · have hgot : ((Pool.getTarget PoolStore.source "z." ⟨.empty⟩ ⟨"A.z", "a", "eu"⟩).run.run
        silentPools).answer = .ok (some silentSet) := by decide +kernel
    exact ⟨_, rfl, hgot,
      hpools PoolStore.source ⟨.empty⟩ "z." silentPools _ rfl silentSet (.got hgot)⟩
  · obtain ⟨reader, hreader⟩ : ∃ reader,
        ((GeoService.reader ServiceStore.source ⟨.empty⟩ "z.").run.run exchangeServices).answer =
          .ok reader := ⟨_, rfl⟩
    obtain ⟨l, hl⟩ : ∃ l, ((reader.list .all).run.run exchangeServices).answer = .ok l := by
      cases hreader
      exact ⟨_, rfl⟩
    have hpulled : ((reader.pull l 2).run exchangeServices).answer.1 =
        [some (.ok exchangeSet), none] := by
      cases hreader
      cases hl
      decide +kernel
    have hgiven : some (.ok exchangeSet) ∈
        ((reader.pull l 2).run exchangeServices).answer.1 := by
      rw [hpulled]
      exact List.mem_cons_self
    exact ⟨reader, l, hreader, hl, hpulled,
      hservices ServiceStore.source ⟨.empty⟩ "z." exchangeServices reader hreader exchangeSet
        (.pulled hl hgiven)⟩

end GeoRouting
