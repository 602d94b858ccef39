import GeoRouting.Proofs.Pool.Course
import GeoRouting.Proofs.Pool.Target

/-!
# Only the rows of a target matter

Getting the record set of a group asks for the rows of that group alone, bucket by bucket, and
then for the territories of the group of the first row of the type, when there is such a row. So
what is got is the same in all stores with the same territories and the same rows of the target.
What other rows a name, a type or a group has does not matter, be they malformed or not.
-/

namespace GeoRouting

theorem Row.groupName?_of_belongs {type group : String} {r : Row}
    (h : r.belongs type group = true) : ∃ g, r.group? = some g ∧ g.name = group :=
  Option.map_eq_some_iff.mp (Row.belongs_iff.mp h).2

namespace Pool

section
variable {s : PoolStore} {zone : String} {z : PoolZone}

theorem run_requireZone_watched (hz : s.zone zone = .ok z) (calls : List PoolCall) :
    (requireZone PoolStore.source.watched zone).run.run ⟨s, calls⟩ =
      ⟨.ok (), ⟨s, calls ++ [.zoneExists zone]⟩, []⟩ := by
  have hfound : (PoolStore.source.watched (.zoneExists zone) ⟨s, calls⟩).1 = .ok true :=
    PoolStore.reply_zoneExists hz
  rw [run_requireZone_eq, hfound]
  rfl

/-- The rows of a target are asked for bucket by bucket. -/
theorem run_targetRows_watched (hz : s.zone zone = .ok z) (t : Target) (buckets : List Bucket)
    (calls : List PoolCall) :
    (targetRows PoolStore.source.watched zone t buckets).run.run ⟨s, calls⟩ =
      ⟨.ok (buckets.flatMap fun b =>
          (z.rowsOf t.name b).filter fun r => r.groupName? == some t.group),
        ⟨s, calls ++ buckets.map fun b => .groupRows ⟨zone, t.name, b.code, t.group⟩⟩, []⟩ := by
  induction buckets generalizing calls with
  | nil => simp [targetRows]
  | cons b buckets ih =>
    let call : PoolCall := .groupRows ⟨zone, t.name, b.code, t.group⟩
    have hanswer : ((PoolStore.source.watched.ask call).run.run ⟨s, calls⟩).answer =
        .ok ((z.rowsOf t.name b).filter fun r => r.groupName? == some t.group) :=
      PoolStore.reply_groupRows hz t.name t.group b
    have hstate : ((PoolStore.source.watched.ask call).run.run ⟨s, calls⟩).state =
        ⟨s, calls ++ [call]⟩ := rfl
    have hrest := ih (calls ++ [call])
    rw [targetRows, Query.run_bind_ok hanswer, hstate,
      Query.run_bind_ok (congrArg Outcome.answer hrest), hrest]
    simp [call]

/-- A fresh grouping loads the territories of the group of its first row. -/
theorem missing_ofRows (provider : String) (regions : Option RegionTable) (rows : List Row) :
    (Grouping.ofRows provider regions rows).missing .empty =
      (rows.head?.bind Row.group?).toList.map GroupRef.id := by
  cases rows with
  | nil => rfl
  | cons first rows =>
    change first.missing .empty = (first.group?).toList.map GroupRef.id
    rw [Row.missing]
    cases first.group? <;> rfl

/-- Taking the first item of a grouping asks for nothing else. -/
theorem state_first {σ : Type} (load : TerritorySource σ) (g : Grouping) (w : σ) :
    ((ExceptT.lift (g.next load .empty) >>= fun out =>
      match out.1 with
      | none => pure none
      | some item => do return some (← Query.ofExcept item) :
        Query σ (Option RoutedRecordSet)).run.run w).state =
      load.after (g.missing .empty) w := by
  have hnext := Query.run_lift (g.next load .empty) w
  rw [Query.run_bind_ok (congrArg Outcome.answer hnext), hnext, ← Grouping.state_next]
  rcases (g.next load .empty).run w with ⟨⟨item, cache, rest⟩, state, log⟩
  rcases item with _ | _ | _ <;> rfl

/-- Getting a target asks for the zone, for the rows of the target and for the territories of its
first row. -/
theorem state_getTarget_watched (hz : s.zone zone = .ok z) {t checked : Target}
    (hc : t.check provider = .ok checked) (regions : RegionTable) :
    ((getTarget PoolStore.source.watched zone regions t).run.run ⟨s, []⟩).state =
      ⟨s, .zoneExists zone ::
          (Bucket.holding checked.type).map
            (fun b => .groupRows ⟨zone, checked.name, b.code, checked.group⟩) ++
        ((z.rowsFor checked.name checked.type checked.group).head?.bind Row.group?).toList.map
          fun g => .territories g.id⟩ := by
  have hrequired := run_requireZone_watched hz []
  have hrows := run_targetRows_watched hz checked (Bucket.holding checked.type)
    [.zoneExists zone]
  rw [getTarget, hc, Query.run_bind_ok rfl, Query.run_ofExcept]
  dsimp only
  rw [Query.run_bind_ok (congrArg Outcome.answer hrequired), hrequired]
  dsimp only
  rw [List.nil_append, Query.run_bind_ok (congrArg Outcome.answer hrows), hrows,
    List.filter_flatMap]
  simp only [List.filter_filter]
  refine (state_first (PoolSource.territories PoolStore.source.watched) _ _).trans ?_
  rw [missing_ofRows, PoolSource.after_territories, Source.after_watched,
    Source.after_of_unchanged fun _ => rfl, List.map_map]
  rfl

theorem loads_getTarget_watched (hz : s.zone zone = .ok z) {t checked : Target}
    (hc : t.check provider = .ok checked) (regions : RegionTable) :
    PoolCall.loads
        ((getTarget PoolStore.source.watched zone regions t).run.run ⟨s, []⟩).state.calls =
      ((z.rowsFor checked.name checked.type checked.group).head?.bind Row.group?).toList.map
        GroupRef.id := by
  have hfetches (buckets : List Bucket) : PoolCall.loads (buckets.map fun b =>
      .groupRows ⟨zone, checked.name, b.code, checked.group⟩) = [] := by
    rw [PoolCall.loads, List.filterMap_map]
    exact List.filterMap_eq_nil_iff.mpr fun _ _ => rfl
  rw [state_getTarget_watched hz hc]
  dsimp only
  rw [PoolCall.loads_append, ← List.singleton_append, PoolCall.loads_append, hfetches,
    ← PoolCall.loads_territories (List.map _ _), List.map_map]
  rfl

end

/-- What is got for a target, and what is asked for it, depends on the territories and on the rows
of the target, in their order. Nothing is got, and no territories are loaded, exactly when there
are no such rows. -/
theorem getTarget_depends_on_rows {s t : PoolStore} {zone name type group : String}
    {z y : PoolZone} (hs : s.zone zone = .ok z) (ht : t.zone zone = .ok y)
    (hterritories : s.territories = t.territories) (hn : Text.isBlank name = false)
    (htype : Text.isBlank type = false) (hg : Text.isBlank group = false)
    (hrows : ∀ b ∈ Bucket.holding (Text.upper type),
      (z.rowsOf name b).filter (Row.belongs (Text.upper type) group) =
        (y.rowsOf name b).filter (Row.belongs (Text.upper type) group))
    (regions : RegionTable) :
    let got (s : PoolStore) :=
      ((getTarget PoolStore.source zone regions ⟨name, type, group⟩).run.run s).answer
    let calls (s : PoolStore) :=
      ((getTarget PoolStore.source.watched zone regions ⟨name, type, group⟩).run.run
        ⟨s, []⟩).state.calls
    got s = got t ∧ calls s = calls t ∧
      (got s = .ok none ↔ z.rowsFor name (Text.upper type) group = []) ∧
      (PoolCall.loads (calls s) = [] ↔ z.rowsFor name (Text.upper type) group = []) := by
  intro got calls
  have hc : Target.check provider ⟨name, type, group⟩ =
      .ok ⟨name, Text.upper type, group⟩ := Target.check_eq_ok hn htype hg
  have hfor : z.rowsFor name (Text.upper type) group = y.rowsFor name (Text.upper type) group :=
    List.flatMap_congr hrows
  refine ⟨?_, ?_, ?_, ?_⟩
  · have hgot (s : PoolStore) := getTarget_of_store s zone regions ⟨name, type, group⟩
    simp only [got, hgot, hc, hs, ht, Except.bind, hfor, territories_congr hterritories]
  · simp only [calls, state_getTarget_watched hs hc, state_getTarget_watched ht hc, hfor]
  · change ((getTarget _ _ _ _).run.run s).answer = _ ↔ _
    rw [getTarget_of_zone hs hn htype hg, Item.first_eq_ok]
    change List.head? _ = none ↔ _
    rw [List.head?_eq_none_iff, Run.items_eq_nil]
    rfl
  · simp only [calls, loads_getTarget_watched hs hc]
    cases hrow : z.rowsFor name (Text.upper type) group with
    | nil => simp
    | cons first rows =>
      have hfirst : first ∈ z.rowsFor name (Text.upper type) group := hrow ▸ List.mem_cons_self
      obtain ⟨g, hgroup, -⟩ := Row.groupName?_of_belongs (PoolZone.mem_rowsFor.mp hfirst).2
      simp [hgroup]

/-- An alias in each of the address buckets and a mail exchange in its own, all to one group. -/
def groupedRows : List PoolStore.Change :=
  [.addRow "z." .ipv4
      { name := "a.z.", type := "CNAME", ttl := some 60, values := ["one.z."],
        geoGroup := some ⟨"1", "eu"⟩ },
    .addRow "z." .ipv6
      { name := "A.z.", type := "CNAME", ttl := some 60, values := ["two.z."],
        geoGroup := some ⟨"1", "eu"⟩ },
    .addRow "z." .mx
      { name := "a.z.", type := "MX", ttl := some 60, values := ["10", "mail.z."],
        geoGroup := some ⟨"1", "eu"⟩ }]

/-- Rows that cannot be grouped: an address without values, an alias and a mail exchange without a
group, and a type that is not known. Besides, a mail exchange where none is looked for. -/
def faultyRows : List PoolStore.Change :=
  [.addRow "z." .ipv4
      { name := "a.z.", type := "A", ttl := some 60, values := [],
        geoGroup := some ⟨"1", "eu"⟩ },
    .addRow "z." .ipv6 { name := "a.z.", type := "CNAME", ttl := none, values := [] },
    .addRow "z." .mx { name := "a.z.", type := "MX", ttl := none, values := [] },
    .addRow "z." .ipv4
      { name := "a.z.", type := "LOC", ttl := none, values := ["0"],
        plainGroup := some ⟨"9", "us"⟩ },
    .addRow "z." .txt
      { name := "a.z.", type := "MX", ttl := some 60, values := ["20", "stray.z."],
        geoGroup := some ⟨"1", "eu"⟩ }]

/-- A record set of the mail exchange. -/
def mailSet : RoutedRecordSet :=
  ⟨⟨"a.z.", "MX", some 60,
      [.ofList [("preference", .number (.integer 10)), ("exchange", .text "mail.z.")]]⟩,
    .single Route.geoKind (.geo ⟨"eu", ["BE"], false⟩)⟩

theorem getTarget_among_faulty_rows :
    let plain : PoolStore :=
      .ofHistory (.addZone "z." :: groupedRows ++ [.setTerritories "1" ["BE"]])
    let faulty : PoolStore :=
      .ofHistory (.addZone "z." :: faultyRows ++ groupedRows ++ [.setTerritories "1" ["BE"]])
    let got (type : String) (s : PoolStore) :=
      ((getTarget PoolStore.source "z." ⟨.empty⟩ ⟨"a.z.", type, "eu"⟩).run.run s).answer
    (∃ z, plain.zone "z." = .ok z) ∧ (∃ y, faulty.zone "z." = .ok y) ∧
      plain.territories = faulty.territories ∧ Text.isBlank "a.z." = false ∧
      Text.isBlank "cname" = false ∧ Text.isBlank "mx" = false ∧ Text.isBlank "eu" = false ∧
      got "cname" plain = got "cname" faulty ∧ got "mx" plain = got "mx" faulty ∧
      got "cname" faulty = .ok (some (aliasSet 60 ["one.z.", "two.z."])) ∧
      got "mx" faulty = .ok (some mailSet) := by
  intro plain faulty got
  obtain ⟨z, hz⟩ : ∃ z, plain.zone "z." = .ok z := ⟨_, rfl⟩
  obtain ⟨y, hy⟩ : ∃ y, faulty.zone "z." = .ok y := ⟨_, rfl⟩
  have hterritories : plain.territories = faulty.territories := by decide +kernel
  have hn : Text.isBlank "a.z." = false := by decide +kernel
  have hcname : Text.isBlank "cname" = false := by decide +kernel
  have hmx : Text.isBlank "mx" = false := by decide +kernel
  have hg : Text.isBlank "eu" = false := by decide +kernel
  have hrows : ∀ type ∈ ["CNAME", "MX"], ∀ b ∈ Bucket.holding type,
      (z.rowsOf "a.z." b).filter (Row.belongs type "eu") =
        (y.rowsOf "a.z." b).filter (Row.belongs type "eu") := by
    cases hz
    cases hy
    decide +kernel
  have hupper : Text.upper "cname" = "CNAME" ∧ Text.upper "mx" = "MX" := by decide +kernel
  have haliases : got "cname" plain = got "cname" faulty :=
    (getTarget_depends_on_rows hz hy hterritories hn hcname hg
      (hupper.1 ▸ hrows "CNAME" (by decide)) ⟨.empty⟩).1
  have hmail : got "mx" plain = got "mx" faulty :=
    (getTarget_depends_on_rows hz hy hterritories hn hmx hg
      (hupper.2 ▸ hrows "MX" (by decide)) ⟨.empty⟩).1
  refine ⟨⟨z, hz⟩, ⟨y, hy⟩, hterritories, hn, hcname, hmx, hg, haliases, hmail, ?_, ?_⟩
  · rw [← haliases]
    refine (getTarget_of_zone hz hn hcname hg).trans ?_
    cases hz
    decide +kernel
  · rw [← hmail]
    refine (getTarget_of_zone hz hn hmx hg).trans ?_
    cases hz
    decide +kernel

end Pool

end GeoRouting
