import GeoRouting.Proofs.Pool.Target

/-!
# Listing a type among rows of other types

A listing of one type groups whole buckets. The record sets of other types are left out
afterwards, but the errors of other types are not: the first of them ends the listing. So what is
listed is the same as in a store without the rows of other types exactly when no error of another
type comes before the first error of the type, or that error is what would have come next anyway.
In any case the record sets listed are the first of those that are listed without such rows.
-/

namespace GeoRouting

/-! ## Stores without the rows of other types -/

/-- The zone without the rows of other types. -/
def PoolZone.onlyType (type : String) (z : PoolZone) : PoolZone :=
  { z with rows := z.rows.filter fun e => e.2.ofType type }

/-- The store without the rows of other types. -/
def PoolStore.onlyType (type : String) (s : PoolStore) : PoolStore :=
  { s with zones := s.zones.map (PoolZone.onlyType type) }

theorem PoolZone.rowsOf_onlyType (type : String) (z : PoolZone) (name : String) (b : Bucket) :
    (z.onlyType type).rowsOf name b = (z.rowsOf name b).filter (Row.ofType type) := by
  rw [rowsOf, rowsOf, filter_rowsWhere, rowsWhere, rowsWhere, onlyType, List.filter_filter]
  simp only [Bool.and_comm]

theorem PoolStore.zone_onlyType {s : PoolStore} {zone : String} {z : PoolZone}
    (h : s.zone zone = .ok z) (type : String) :
    (s.onlyType type).zone zone = .ok (z.onlyType type) := by
  unfold PoolStore.zone at h ⊢
  rw [onlyType, Dict.get?_map]
  split at h
  · rename_i hz
    cases h
    rw [hz]
    rfl
  · cases h

/-! ## Items to keep among others -/

namespace Item

/-- Of items that are marked, those to keep. -/
def kept (xs : List (Bool × Item)) : List Item := (xs.filter Prod.fst).map Prod.snd

/-- Of items that are marked, those to keep and all errors. -/
def shown (xs : List (Bool × Item)) : List Item :=
  (xs.filter fun x => x.1 || !x.2.isOk).map Prod.snd

section
variable (xs : List (Bool × Item))

@[simp] theorem kept_cons_keep (x : Item) : kept ((true, x) :: xs) = x :: kept xs := rfl

@[simp] theorem kept_cons_other (x : Item) : kept ((false, x) :: xs) = kept xs := rfl

@[simp] theorem shown_cons_keep (x : Item) : shown ((true, x) :: xs) = x :: shown xs := rfl

@[simp] theorem shown_cons_ok (r : RoutedRecordSet) : shown ((false, .ok r) :: xs) = shown xs :=
  rfl

@[simp] theorem shown_cons_error (e : GeoError) :
    shown ((false, .error e) :: xs) = .error e :: shown xs := rfl

end

theorem kept_flatMap {α : Type} (f : α → List (Bool × Item)) (pieces : List α) :
    kept (pieces.flatMap f) = pieces.flatMap fun a => kept (f a) := by
  rw [kept, List.filter_flatMap, List.map_flatMap]
  rfl

theorem shown_flatMap {α : Type} (f : α → List (Bool × Item)) (pieces : List α) :
    shown (pieces.flatMap f) = pieces.flatMap fun a => shown (f a) := by
  rw [shown, List.filter_flatMap, List.map_flatMap]
  rfl

/-- Whether the first error is one to keep, or comes next among the items to keep anyway. -/
def Undisturbed : List (Bool × Item) → Prop
  | [] => True
  | (_, .ok _) :: xs => Undisturbed xs
  | (true, .error _) :: _ => True
  | (false, .error e) :: xs => (kept xs).head? = some (.error e)

instance decidableUndisturbed : (xs : List (Bool × Item)) → Decidable (Undisturbed xs)
  | [] => .isTrue trivial
  | (false, .ok _) :: xs => decidableUndisturbed xs
  | (true, .ok _) :: xs => decidableUndisturbed xs
  | (true, .error _) :: _ => .isTrue trivial
  | (false, .error e) :: xs =>
    inferInstanceAs (Decidable ((kept xs).head? = some (.error e)))

theorem upToError_eq_singleton {items : List Item} {e : GeoError} :
    upToError items = [.error e] ↔ items.head? = some (.error e) := by
  rcases items with _ | ⟨_ | _, _⟩ <;> simp

/-- Showing all errors comes to the same as showing the items to keep alone exactly when these are
not disturbed. -/
theorem upToError_shown_iff (xs : List (Bool × Item)) :
    upToError (shown xs) = upToError (kept xs) ↔ Undisturbed xs := by
  induction xs with
  | nil => exact iff_of_true rfl trivial
  | cons x xs ih =>
    rcases x with ⟨_ | _, e | r⟩
    · rw [shown_cons_error, kept_cons_other, upToError_error, Undisturbed, eq_comm,
        upToError_eq_singleton]
    · rw [shown_cons_ok, kept_cons_other, ih, Undisturbed]
    · exact iff_of_true rfl trivial
    · rw [shown_cons_keep, kept_cons_keep, upToError_ok, upToError_ok, List.cons_inj_right, ih,
        Undisturbed]

/-- An error of an item that is not kept cuts off record sets, and does nothing else. -/
theorem sets_shown_prefix (xs : List (Bool × Item)) :
    sets (upToError (shown xs)) <+: sets (upToError (kept xs)) := by
  induction xs with
  | nil => exact List.prefix_rfl
  | cons x xs ih =>
    rcases x with ⟨_ | _, e | r⟩
    · exact List.nil_prefix
    · exact ih
    · exact List.prefix_rfl
    · exact (List.prefix_cons_inj r).mpr ih

/-- What a listing keeps can be chosen before the cut or after it, because it keeps all errors. -/
theorem filter_keeps_upToError (only : Option String) (items : List Item) :
    (upToError items).filter (BucketCursor.keeps only) =
      upToError (items.filter (BucketCursor.keeps only)) := by
  induction items with
  | nil => rfl
  | cons x items ih =>
    cases x with
    | error e => rfl
    | ok r =>
      rw [upToError_ok, List.filter_cons, List.filter_cons, ih]
      split <;> rfl

end Item

namespace Run
variable {provider : String} {territories : String → Except GeoError (List String)}

/-- The items of the runs of some rows, each with whether its first row is to be kept. -/
def marked (provider : String) (territories : String → Except GeoError (List String))
    (keep : Row → Bool) (rows : List Row) : List (Bool × Item) :=
  (Row.runs rows).filterMap fun
    | [] => none
    | first :: others => some (keep first, item provider territories first others)

theorem map_marked (keep : Row → Bool) (rows : List Row) :
    (marked provider territories keep rows).map Prod.snd = items provider territories rows := by
  rw [marked, List.map_filterMap, items]
  congr 1
  funext run
  cases run <;> rfl

/-- The items to keep are those of the rows to keep alone. -/
theorem kept_marked {keep : Row → Bool} (hk : Row.Gathers keep) {rows : List Row}
    (h : rows.Pairwise fun r s => r.precedes s = true) :
    Item.kept (marked provider territories keep rows) =
      items provider territories (rows.filter keep) := by
  rw [items, hk.runs_filter h, marked, Row.keptRuns]
  induction Row.runs rows with
  | nil => rfl
  | cons run runs ih =>
    cases run with
    | nil => exact ih
    | cons first others =>
      rw [List.filterMap_cons, List.filter_cons, List.head?_cons, Option.any_some]
      dsimp only
      cases keep first with
      | true => exact congrArg (_ :: ·) ih
      | false => exact ih

/-- A listing of one type shows what the type gives, and the errors of other types. -/
theorem shown_marked (type : String) (rows : List Row) :
    Item.shown (marked provider territories (Row.ofType type) rows) =
      (items provider territories rows).filter (BucketCursor.keeps (some type)) := by
  rw [← map_marked (Row.ofType type), List.filter_map, Item.shown]
  congr 1
  apply List.filter_congr
  rintro ⟨keep, x⟩ hx
  obtain ⟨run, -, hrun⟩ := List.mem_filterMap.mp hx
  cases run with
  | nil => cases hrun
  | cons first others =>
    cases Option.some.inj hrun
    cases hitem : item provider territories first others with
    | error e => simp [BucketCursor.keeps, Except.isOk, Except.toBool]
    | ok r =>
      obtain ⟨_, _, _, _, _, _, _, rfl⟩ := item_eq_ok.mp hitem
      simp [BucketCursor.keeps, Except.isOk, Except.toBool, Row.ofType, RoutedRecordSet.type]

end Run

namespace Pool

/-- The items of the buckets that can hold a type, each with whether its rows are of the type. -/
def typedItems (s : PoolStore) (regions : RegionTable) (z : PoolZone) (name type : String) :
    List (Bool × Item) :=
  (Bucket.holding type).flatMap fun b =>
    Run.marked provider (territories s.reply regions) (Row.ofType type) (Row.sort (z.rowsOf name b))

section
variable {s : PoolStore} {zone : String} {z : PoolZone} {name type : String}

/-- What is listed for a type. -/
theorem items_typed_of_zone (hz : s.zone zone = .ok z) (hn : Text.isBlank name = false)
    (ht : Text.isBlank type = false) (regions : RegionTable) :
    ((items PoolStore.source zone regions (.typed name type)).run.run s).answer =
      .ok (Item.upToError (Item.shown (typedItems s regions z name (Text.upper type)))) := by
  rw [items_typed_steady (PoolStore.source_steady s) (PoolStore.reply_zoneExists hz) hn ht,
    typedItems, Item.shown_flatMap, bucketsOf, List.flatMap_map]
  simp only [PoolStore.bucketItems_of_zone hz, Item.filter_keeps_upToError, Run.shown_marked,
    Item.upToError_flatMap]

/-- Without the rows of other types a bucket gives nothing to leave out. -/
theorem filter_bucketItems_onlyType (hz : s.zone zone = .ok z) (regions : RegionTable)
    (type : String) (b : String × Bucket) :
    (BucketCursor.bucketItems (s.onlyType type).reply zone regions b).filter
        (BucketCursor.keeps (some type)) =
      BucketCursor.bucketItems (s.onlyType type).reply zone regions b := by
  apply List.filter_eq_self.mpr
  intro x hx
  cases x with
  | error e => rfl
  | ok r =>
    obtain ⟨row, hrow, hcovers⟩ :=
      exists_covers_of_bucketItems (PoolStore.zone_onlyType hz type) hx
    rw [PoolZone.rowsOf_onlyType] at hrow
    rw [BucketCursor.keeps, Option.all_some, hcovers.type]
    exact (List.mem_filter.mp hrow).2

/-- What is listed for a type in a store without the rows of other types. -/
theorem items_typed_of_onlyType (hz : s.zone zone = .ok z) (hn : Text.isBlank name = false)
    (ht : Text.isBlank type = false) (regions : RegionTable) :
    ((items PoolStore.source zone regions (.typed name type)).run.run
        (s.onlyType (Text.upper type))).answer =
      .ok (Item.upToError (Item.kept (typedItems s regions z name (Text.upper type)))) := by
  have hz' := PoolStore.zone_onlyType hz (Text.upper type)
  have hgroups : territories (s.onlyType (Text.upper type)).reply regions =
      territories s.reply regions := territories_congr rfl regions
  rw [items_typed_steady (PoolStore.source_steady _) (PoolStore.reply_zoneExists hz') hn ht,
    typedItems, Item.kept_flatMap, bucketsOf, List.flatMap_map]
  simp only [filter_bucketItems_onlyType hz]
  simp only [PoolStore.bucketItems_of_zone hz', PoolZone.rowsOf_onlyType, hgroups,
    Run.kept_marked (Row.gathers_ofType _) (Row.sort_pairwise _), Row.sort_filter,
    Item.upToError_flatMap]

/-- A listing of a type is the one of a store without the rows of other types exactly when no
error of another type disturbs it. Otherwise it gives the first of the same record sets. -/
theorem items_typed_isolated_iff (hz : s.zone zone = .ok z) (hn : Text.isBlank name = false)
    (ht : Text.isBlank type = false) (regions : RegionTable) :
    let listed (s : PoolStore) :=
      ((items PoolStore.source zone regions (.typed name type)).run.run s).answer
    let marked := typedItems s regions z name (Text.upper type)
    listed s = .ok (Item.upToError (Item.shown marked)) ∧
      listed (s.onlyType (Text.upper type)) = .ok (Item.upToError (Item.kept marked)) ∧
      (listed s = listed (s.onlyType (Text.upper type)) ↔ Item.Undisturbed marked) ∧
      Item.sets (Item.upToError (Item.shown marked)) <+:
        Item.sets (Item.upToError (Item.kept marked)) := by
  intro listed marked
  have hlisted : listed s = .ok (Item.upToError (Item.shown marked)) :=
    items_typed_of_zone hz hn ht regions
  have hisolated : listed (s.onlyType (Text.upper type)) =
      .ok (Item.upToError (Item.kept marked)) := items_typed_of_onlyType hz hn ht regions
  refine ⟨hlisted, hisolated, ?_, Item.sets_shown_prefix marked⟩
  rw [hlisted, hisolated, Except.ok.injEq, Item.upToError_shown_iff]

end

/-- An address, an alias, and an alias that cannot be grouped, of which each comes before the one
after it when they are sorted. -/
def aliasesBesideAddress : List Row :=
  [{ name := "a.z.", type := "A", ttl := some 60, values := ["192.0.2.1"],
      geoGroup := some ⟨"1", "eu"⟩ },
    { name := "a.z.", type := "CNAME", ttl := some 60, values := ["one.z."],
      geoGroup := some ⟨"1", "eu"⟩ },
    { name := "a.z.", type := "CNAME", ttl := some 60, values := [],
      geoGroup := some ⟨"2", "us"⟩ }]

/-- These rows in one bucket, and an address that cannot be grouped in the other. -/
def shieldedStore : PoolStore := .ofHistory <|
  .addZone "z." :: aliasesBesideAddress.map (.addRow "z." .ipv4) ++
    [.addRow "z." .ipv6
      { name := "a.z.", type := "AAAA", ttl := some 60, values := [],
        geoGroup := some ⟨"1", "eu"⟩ },
      .setTerritories "1" ["BE"], .setTerritories "2" ["US"]]

/-- The error of a row to a group without values. -/
def noAnswerError (type group : String) : GeoError :=
  (Violation.noAnswer "a.z." type group).error provider

theorem items_typed_of_shieldedStore :
    let listed (s : PoolStore) :=
      ((items PoolStore.source "z." ⟨.empty⟩ (.typed "a.z." "cname")).run.run s).answer
    ∃ z, shieldedStore.zone "z." = .ok z ∧ Text.isBlank "a.z." = false ∧
      Text.isBlank "cname" = false ∧
      Item.Undisturbed (typedItems shieldedStore ⟨.empty⟩ z "a.z." "CNAME") ∧
      listed shieldedStore = listed (shieldedStore.onlyType "CNAME") ∧
      listed shieldedStore =
        .ok [.ok (aliasSet 60 ["one.z."]), .error (noAnswerError "CNAME" "us")] := by
  intro listed
  obtain ⟨z, hz⟩ : ∃ z, shieldedStore.zone "z." = .ok z := ⟨_, rfl⟩
  have hn : Text.isBlank "a.z." = false := by decide +kernel
  have ht : Text.isBlank "cname" = false := by decide +kernel
  have hupper : Text.upper "cname" = "CNAME" := by decide +kernel
  have hrows : z.rowsOf "a.z." .ipv4 = aliasesBesideAddress := by
    cases hz
    decide +kernel
  have hsort : Row.sort aliasesBesideAddress = aliasesBesideAddress :=
    List.mergeSort_of_pairwise (by decide +kernel)
  have hitems : typedItems shieldedStore ⟨.empty⟩ z "a.z." "CNAME" =
      [(false, .ok (addressSet "192.0.2.1" "eu" "BE")), (true, .ok (aliasSet 60 ["one.z."])),
        (true, .error (noAnswerError "CNAME" "us")),
        (false, .error (noAnswerError "AAAA" "eu"))] := by
    change Run.marked _ _ _ (Row.sort (z.rowsOf "a.z." .ipv4)) ++ _ = _
    rw [hrows, hsort]
    cases hz
    decide +kernel
  obtain ⟨hlisted, -, hiff, -⟩ := items_typed_isolated_iff hz hn ht ⟨.empty⟩
  rw [hupper, hitems] at hlisted hiff
  have hundisturbed : Item.Undisturbed (typedItems shieldedStore ⟨.empty⟩ z "a.z." "CNAME") := by
    rw [hitems]
    decide
  exact ⟨z, hz, hn, ht, hundisturbed, hiff.mpr (hitems ▸ hundisturbed), hlisted⟩

/-- An address and an alias to one group. -/
def besideRows (addresses aliases : List String) : List Row :=
  [{ name := "a.z.", type := "A", ttl := some 60, values := addresses,
      geoGroup := some ⟨"1", "eu"⟩ },
    { name := "a.z.", type := "CNAME", ttl := some 60, values := aliases,
      geoGroup := some ⟨"1", "eu"⟩ }]

def besideStore (addresses aliases : List String) : PoolStore := .ofHistory <|
  .addZone "z." :: (besideRows addresses aliases).map (.addRow "z." .ipv4) ++
    [.setTerritories "1" ["BE"]]

theorem sort_besideRows (addresses aliases : List String) :
    Row.sort (besideRows addresses aliases) = besideRows addresses aliases := by
  have htypes : "A" < "CNAME" := by decide +kernel
  exact List.mergeSort_of_pairwise (List.pairwise_pair.mpr (Row.precedes_iff.mpr (Or.inl htypes)))

/-- An address without values hides the alias beside it, and an alias without values fails the
listing of the address. -/
theorem items_typed_beside_faulty_rows :
    let listed (s : PoolStore) (type : String) :=
      ((items PoolStore.source "z." ⟨.empty⟩ (.typed "a.z." type)).run.run s).answer
    let faultyAddress := besideStore [] ["one.z."]
    let faultyAlias := besideStore ["192.0.2.1"] []
    listed faultyAddress "CNAME" = .ok [.error (noAnswerError "A" "eu")] ∧
      listed (faultyAddress.onlyType "CNAME") "CNAME" = .ok [.ok (aliasSet 60 ["one.z."])] ∧
      listed faultyAlias "A" =
        .ok [.ok (addressSet "192.0.2.1" "eu" "BE"), .error (noAnswerError "CNAME" "eu")] ∧
      listed (faultyAlias.onlyType "A") "A" = .ok [.ok (addressSet "192.0.2.1" "eu" "BE")] := by
  intro listed faultyAddress faultyAlias
  have hn : Text.isBlank "a.z." = false := by decide +kernel
  have halias : Text.isBlank "CNAME" = false := by decide +kernel
  have haddress : Text.isBlank "A" = false := by decide +kernel
  have hupperAlias : Text.upper "CNAME" = "CNAME" := by decide +kernel
  have hupperAddress : Text.upper "A" = "A" := by decide +kernel
  obtain ⟨z, hz⟩ : ∃ z, faultyAddress.zone "z." = .ok z := ⟨_, rfl⟩
  obtain ⟨y, hy⟩ : ∃ y, faultyAlias.zone "z." = .ok y := ⟨_, rfl⟩
  have hz4 : z.rowsOf "a.z." .ipv4 = besideRows [] ["one.z."] := by
    cases hz
    decide +kernel
  have hy4 : y.rowsOf "a.z." .ipv4 = besideRows ["192.0.2.1"] [] := by
    cases hy
    decide +kernel
  have hzItems : typedItems faultyAddress ⟨.empty⟩ z "a.z." "CNAME" =
      [(false, .error (noAnswerError "A" "eu")), (true, .ok (aliasSet 60 ["one.z."]))] := by
    change Run.marked _ _ _ (Row.sort (z.rowsOf "a.z." .ipv4)) ++ _ = _
    rw [hz4, sort_besideRows]
    cases hz
    decide +kernel
  have hyItems : typedItems faultyAlias ⟨.empty⟩ y "a.z." "A" =
      [(true, .ok (addressSet "192.0.2.1" "eu" "BE")),
        (false, .error (noAnswerError "CNAME" "eu"))] := by
    change Run.marked _ _ _ (Row.sort (y.rowsOf "a.z." .ipv4)) ++ [] = _
    rw [hy4, sort_besideRows]
    cases hy
    decide +kernel
  have hzListed := items_typed_of_zone hz hn halias ⟨.empty⟩
  have hzAlone := items_typed_of_onlyType hz hn halias ⟨.empty⟩
  have hyListed := items_typed_of_zone hy hn haddress ⟨.empty⟩
  have hyAlone := items_typed_of_onlyType hy hn haddress ⟨.empty⟩
  rw [hupperAlias, hzItems] at hzListed hzAlone
  rw [hupperAddress, hyItems] at hyListed hyAlone
  exact ⟨hzListed, hzAlone, hyListed, hyAlone⟩

end Pool

end GeoRouting
