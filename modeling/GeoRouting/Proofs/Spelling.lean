import GeoRouting.Proofs.Arguments
import GeoRouting.Proofs.Histories
import GeoRouting.Proofs.Service.Selecting
import GeoRouting.Proofs.Text.Spelling

/-!
# Queries in another spelling

Asked for a name or a type in another spelling, a zone answers the same, and it never gives a record
set for two names. A record set is not made of things with two names either. Record sets in memory,
pools and services each compare names at a place of their own: record by record, in the rows of a
bucket, and node by node before there are rows.
-/

namespace GeoRouting

open DomainName (Respelled)

/-- The name that a selection asks for. -/
def Selection.name? : Selection → Option String
  | .all => none
  | .named name => some name
  | .typed name _ => some name

theorem Selection.name?_upperCased (selection : Selection) :
    selection.upperCased.name? = selection.name? := by
  cases selection <;> rfl

/-- What the queries of one zone answer. -/
structure ZoneAnswers where
  items : Selection → Except GeoError (List Item)
  got : Target → Except GeoError (Option RoutedRecordSet)

namespace ZoneAnswers

/-- Whether a record set is given by a query, which may ask for a name. -/
inductive Gives (a : ZoneAnswers) (r : RoutedRecordSet) : Option String → Prop
  | item {selection : Selection} {listed : List Item} (h : a.items selection = .ok listed)
      (hr : .ok r ∈ listed) : Gives a r selection.name?
  | got {target : Target} (h : a.got target = .ok (some r)) : Gives a r (some target.name)

/-- Whether a record set is made of things that all have its name, in some spelling. What it is made
of, by their names, `origin` says. -/
def Whole (origin : RoutedRecordSet → List String → Prop) (r : RoutedRecordSet) : Prop :=
  ∃ names, names ≠ [] ∧ origin r names ∧ ∀ name ∈ names, Respelled name r.name

/-- Whether the spelling of what is asked for does not matter, and nothing but the spelling. -/
structure IgnoreSpelling (a : ZoneAnswers) (origin : RoutedRecordSet → List String → Prop) :
    Prop where
  named : ∀ {name name'}, Text.isBlank name = false → Text.isBlank name' = false →
    Respelled name name' → a.items (.named name) = a.items (.named name')
  typed : ∀ {name name' type type'}, Text.isBlank name = false → Text.isBlank name' = false →
    Respelled name name' → Text.lower type = Text.lower type' →
    a.items (.typed name type) = a.items (.typed name' type')
  got : ∀ {name name' type type'}, Text.isBlank name = false → Text.isBlank name' = false →
    Respelled name name' → Text.lower type = Text.lower type' →
    ∀ group, a.got ⟨name, type, group⟩ = a.got ⟨name', type', group⟩
  /-- No record set is given for two names. -/
  apart : ∀ {name name' r}, a.Gives r (some name) → a.Gives r (some name') → Respelled name name'
  /-- No record set is made of things with two names. -/
  whole : ∀ {r asked}, a.Gives r asked → Whole origin r

section
variable {a : ZoneAnswers} {origin : RoutedRecordSet → List String → Prop}

/-- Queries that all fail alike have nothing to spell. -/
theorem IgnoreSpelling.of_error {e : GeoError} (hitems : ∀ selection, a.items selection = .error e)
    (hgot : ∀ target, a.got target = .error e) : a.IgnoreSpelling origin := by
  have hnone : ∀ r asked, ¬ a.Gives r asked := by
    intro r asked h
    cases h with
    | item h _ =>
      rw [hitems] at h
      cases h
    | got h =>
      rw [hgot] at h
      cases h
  constructor
  · intro name name' _ _ _
    rw [hitems, hitems]
  · intro name name' type type' _ _ _ _
    rw [hitems, hitems]
  · intro name name' type type' _ _ _ _ group
    rw [hgot, hgot]
  · intro name name' r h
    exact absurd h (hnone r (some name))
  · intro r asked h
    exact absurd h (hnone r asked)

/-- Queries that check what is asked for, before anything else, ignore its spelling when what is
answered after the check depends on the key of the name. -/
theorem IgnoreSpelling.of_checked (provider : String)
    (answer : Selection → Except GeoError (List Item))
    (answerTo : Target → Except GeoError (Option RoutedRecordSet))
    (hitems : ∀ selection, a.items selection = (selection.check provider).bind answer)
    (hgot : ∀ target, a.got target = (target.check provider).bind answerTo)
    (hnamed : ∀ {name name'}, DomainName.key name = DomainName.key name' →
      answer (.named name) = answer (.named name'))
    (htyped : ∀ {name name'}, DomainName.key name = DomainName.key name' → ∀ type,
      answer (.typed name type) = answer (.typed name' type))
    (htarget : ∀ {name name'}, DomainName.key name = DomainName.key name' → ∀ type group,
      answerTo ⟨name, type, group⟩ = answerTo ⟨name', type, group⟩)
    (hlisted : ∀ checked listed r, answer checked = .ok listed → .ok r ∈ listed →
      (∀ name ∈ checked.name?, Respelled r.name name) ∧ Whole origin r)
    (hfound : ∀ checked r, answerTo checked = .ok (some r) →
      Respelled r.name checked.name ∧ Whole origin r) : a.IgnoreSpelling origin := by
  have hgives : ∀ {r asked}, a.Gives r asked →
      (∀ name ∈ asked, Respelled r.name name) ∧ Whole origin r := by
    intro r asked h
    cases h with
    | @item selection listed h hr =>
      rw [hitems, Selection.check_eq] at h
      rw [← selection.name?_upperCased]
      exact hlisted _ listed r (eq_ok_of_checkedUnlessBlank_bind h) hr
    | @got target h =>
      rw [hgot, Target.check_eq] at h
      obtain ⟨hname, hwhole⟩ := hfound _ r (eq_ok_of_checkedUnlessBlank_bind h)
      refine ⟨?_, hwhole⟩
      rintro name ⟨⟩
      exact hname
  constructor
  · intro name name' hn hn' h
    rw [hitems, hitems, Selection.check_named hn, Selection.check_named hn']
    exact hnamed (DomainName.respelled_iff.mp h)
  · intro name name' type type' hn hn' h ht
    rw [hitems, hitems, Selection.check_eq, Selection.check_eq]
    apply checkedUnlessBlank_bind_congr
    · simp only [Selection.arguments, firstBlank?_cons, hn, hn', Text.isBlank_of_lower ht]
    · dsimp only [Selection.upperCased]
      rw [Text.upper_of_lower ht]
      exact htyped (DomainName.respelled_iff.mp h) (Text.upper type')
  · intro name name' type type' hn hn' h ht group
    rw [hgot, hgot, Target.check_eq, Target.check_eq]
    apply checkedUnlessBlank_bind_congr
    · simp only [Target.arguments, firstBlank?_cons, hn, hn', Text.isBlank_of_lower ht]
    · dsimp only
      rw [Text.upper_of_lower ht]
      exact htarget (DomainName.respelled_iff.mp h) (Text.upper type') group
  · intro name name' r h h'
    have hequiv := DomainName.respelled_equivalence
    exact hequiv.trans (hequiv.symm ((hgives h).1 name rfl)) ((hgives h').1 name' rfl)
  · intro r asked h
    exact (hgives h).2

end

end ZoneAnswers

/-- Whether a record set is made of one run among some rows, whose names these are. -/
def RoutedRecordSet.MadeOf (provider : String) (rows : List Row) (r : RoutedRecordSet)
    (names : List String) : Prop :=
  ∃ territories run, (∀ row ∈ run, row ∈ rows) ∧ Run.Makes provider territories run r ∧
    names = run.map Row.name

/-- The rows of a run have one name. -/
theorem RoutedRecordSet.whole_of_makes {provider : String}
    {territories : String → Except GeoError (List String)} {run rows : List Row}
    {r : RoutedRecordSet} (hrun : ∀ row ∈ run, row ∈ rows)
    (h : Run.Makes provider territories run r) :
    ZoneAnswers.Whole (RoutedRecordSet.MadeOf provider rows) r := by
  refine ⟨run.map Row.name, ?_, ⟨territories, run, hrun, h, rfl⟩, ?_⟩
  · obtain ⟨first, others, rfl, -, -⟩ := id h
    exact List.cons_ne_nil first.name (others.map Row.name)
  · intro name hname
    obtain ⟨row, hrow, rfl⟩ := List.mem_map.mp hname
    exact DomainName.respelled_of_lower (h.covers hrow).name.symm

theorem Run.Makes.respelled {provider : String}
    {territories : String → Except GeoError (List String)} {run : List Row} {r : RoutedRecordSet}
    {name : String} (h : Run.Makes provider territories run r)
    (hrun : ∀ row ∈ run, DomainName.same row.name name = true) : Respelled r.name name := by
  obtain ⟨first, others, rfl, -, -⟩ := id h
  have hfirst := DomainName.respelled_of_lower (h.covers List.mem_cons_self).name
  have hasked := DomainName.same_iff_respelled.mp (hrun first List.mem_cons_self)
  exact DomainName.respelled_equivalence.trans hfirst hasked

/-! ## Record sets in memory -/

namespace RecordStore
variable {zone : String}

/-- What the queries of a zone answer. -/
def answers (s : RecordStore) (zone : String) : ZoneAnswers where
  items selection := ((items zone selection).run.run s).answer
  got target := ((got zone target).run.run s).answer

/-- A record set is given as it was put. -/
def Origin (s : RecordStore) (zone : String) (r : RoutedRecordSet) (names : List String) : Prop :=
  ∃ records, s.zones.get? zone = some records ∧ r ∈ records ∧ names = [r.name]

theorem whole_of_mem {s : RecordStore} {records : List RoutedRecordSet} {r : RoutedRecordSet}
    (hz : s.zones.get? zone = some records) (hr : r ∈ records) :
    ZoneAnswers.Whole (s.Origin zone) r := by
  refine ⟨[r.name], List.cons_ne_nil _ _, ⟨records, hz, hr, rfl⟩, ?_⟩
  intro name hname
  rw [List.mem_singleton.mp hname]
  exact DomainName.respelled_equivalence.refl r.name

section
variable {name name' : String} (h : DomainName.key name = DomainName.key name')
include h

theorem covers_named_of_key : covers (.named name) = covers (.named name') := by
  funext r
  simp only [covers, DomainName.same, h]

theorem covers_typed_of_key (type : String) :
    covers (.typed name type) = covers (.typed name' type) := by
  funext r
  simp only [covers, DomainName.same, h]

theorem fits_of_key (type group : String) : fits name type group = fits name' type group := by
  funext r
  simp only [fits, DomainName.same, h]

end

theorem respelled_of_covers {selection : Selection} {r : RoutedRecordSet}
    (h : covers selection r = true) : ∀ name ∈ selection.name?, Respelled r.name name := by
  intro name hname
  cases selection with
  | all => cases hname
  | named asked =>
    cases hname
    exact DomainName.same_iff_respelled.mp h
  | typed asked type =>
    cases hname
    exact DomainName.same_iff_respelled.mp (Bool.and_eq_true_iff.mp h).1

theorem ignoreSpelling (s : RecordStore) (zone : String) :
    (s.answers zone).IgnoreSpelling (s.Origin zone) := by
  cases hz : s.zones.get? zone with
  | none =>
    have hreader := answer_reader_of_absent hz
    apply ZoneAnswers.IgnoreSpelling.of_error (e := .zoneNotFound provider zone)
    · intro selection
      change ((items zone selection).run.run s).answer = _
      rw [items, Query.run_bind_error hreader]
    · intro target
      change ((got zone target).run.run s).answer = _
      rw [got, Query.run_bind_error hreader]
  | some records =>
    apply ZoneAnswers.IgnoreSpelling.of_checked provider
      (fun checked => .ok (((sortedRoutes records).filter (covers checked)).map .ok))
      (fun t => .ok (records.find? (fits t.name t.type t.group)))
    · intro selection
      exact answer_items hz selection
    · intro target
      exact answer_got_of_target hz target
    · intro name name' h
      rw [covers_named_of_key h]
    · intro name name' h type
      rw [covers_typed_of_key h]
    · intro name name' h type group
      rw [fits_of_key h]
    · intro checked listed r hlisted hr
      rw [← Except.ok.inj hlisted, List.mem_map] at hr
      obtain ⟨t, ht, hr⟩ := hr
      cases hr
      obtain ⟨ht, hcovers⟩ := List.mem_filter.mp ht
      rw [sortedRoutes, (sortByText_perm _).mem_iff] at ht
      exact ⟨respelled_of_covers hcovers, whole_of_mem hz (List.mem_filter.mp ht).1⟩
    · intro checked r hr
      have hfound := Except.ok.inj hr
      have hfits := List.find?_some hfound
      simp only [fits, Bool.and_eq_true] at hfits
      exact ⟨DomainName.same_iff_respelled.mp hfits.1.1,
        whole_of_mem hz (List.mem_of_find?_eq_some hfound)⟩

end RecordStore

/-! ## Pools -/

namespace PoolZone

theorem rowsOf_of_key {name name' : String} (h : DomainName.key name = DomainName.key name')
    (z : PoolZone) (b : Bucket) : z.rowsOf name b = z.rowsOf name' b := by
  simp only [rowsOf, DomainName.same, h]

end PoolZone

namespace PoolStore

/-- What the queries of a zone answer. -/
def answers (s : PoolStore) (zone : String) (regions : RegionTable) : ZoneAnswers where
  items selection := ((Pool.items source zone regions selection).run.run s).answer
  got target := ((Pool.getTarget source zone regions target).run.run s).answer

/-- A record set is made of rows of its zone. -/
def Origin (s : PoolStore) (zone : String) (r : RoutedRecordSet) (names : List String) : Prop :=
  ∃ z, s.zone zone = .ok z ∧ r.MadeOf Pool.provider (z.rows.map Prod.snd) names

/-- What a checked selection gives. -/
def answer (s : PoolStore) (zone : String) (regions : RegionTable) (checked : Selection) :
    Except GeoError (List Item) :=
  (s.zone zone).bind fun _ =>
    (Pool.planned s.reply zone regions checked).map (PoolListing.remaining s.reply)

/-- What a checked target gives. -/
def answerTo (s : PoolStore) (zone : String) (regions : RegionTable) (t : Target) :
    Except GeoError (Option RoutedRecordSet) :=
  (s.zone zone).bind fun z =>
    Item.first (Run.items Pool.provider (Pool.territories s.reply regions)
      (z.rowsFor t.name t.type t.group))

section
variable {s : PoolStore} {zone : String} {regions : RegionTable} {name name' : String}

theorem bucketItems_of_key (h : DomainName.key name = DomainName.key name') (b : Bucket) :
    BucketCursor.bucketItems s.reply zone regions (name, b) =
      BucketCursor.bucketItems s.reply zone regions (name', b) := by
  cases hz : s.zone zone with
  | error e =>
    rw [BucketCursor.bucketItems, BucketCursor.bucketItems, reply, reply, hz]
    rfl
  | ok z => rw [bucketItems_of_zone hz, bucketItems_of_zone hz, PoolZone.rowsOf_of_key h]

/-- Listings of the buckets of a name give the same for all its spellings. -/
theorem remaining_of_key (h : DomainName.key name = DomainName.key name')
    (only : Option String) (buckets : List Bucket) :
    PoolListing.remaining s.reply
        { zone, regions, only, pending := Pool.bucketsOf buckets name } =
      PoolListing.remaining s.reply
        { zone, regions, only, pending := Pool.bucketsOf buckets name' } := by
  simp only [PoolListing.remaining, PoolListing.upcoming, Pool.bucketsOf, List.flatMap_map,
    bucketItems_of_key h]

/-- What is listed comes from a bucket. -/
theorem exists_bucket_of_remaining {only : Option String} {pending : List (String × Bucket)}
    {r : RoutedRecordSet}
    (hr : .ok r ∈ PoolListing.remaining s.reply { zone, regions, only, pending }) :
    ∃ b ∈ pending, .ok r ∈ BucketCursor.bucketItems s.reply zone regions b := by
  obtain ⟨b, hb, hr⟩ := List.mem_flatMap.mp ((Item.upToError_prefix _).subset hr)
  exact ⟨b, hb, (List.mem_filter.mp hr).1⟩

/-- That bucket is one of the name asked for. -/
theorem exists_bucket_of_answer {checked : Selection} {listed : List Item} {r : RoutedRecordSet}
    (h : s.answer zone regions checked = .ok listed) (hr : .ok r ∈ listed) :
    ∃ z b, s.zone zone = .ok z ∧ (∀ name ∈ checked.name?, b.1 = name) ∧
      .ok r ∈ BucketCursor.bucketItems s.reply zone regions b := by
  cases hz : s.zone zone with
  | error e =>
    rw [answer, hz] at h
    cases h
  | ok z =>
    have hfst : ∀ {asked : String} {buckets : List Bucket} {b : String × Bucket},
        b ∈ Pool.bucketsOf buckets asked → b.1 = asked := by
      intro asked buckets b hb
      obtain ⟨bucket, -, rfl⟩ := List.mem_map.mp hb
      rfl
    rw [answer, hz] at h
    cases checked with
    | all =>
      rw [Pool.planned, reply_pools hz] at h
      cases h
      obtain ⟨b, -, hr⟩ := exists_bucket_of_remaining hr
      exact ⟨z, b, rfl, fun name hname => (Option.not_mem_none name hname).elim, hr⟩
    | named asked =>
      cases h
      obtain ⟨b, hb, hr⟩ := exists_bucket_of_remaining hr
      exact ⟨z, b, rfl, fun name hname => (hfst hb).trans (Option.some.inj hname), hr⟩
    | typed asked type =>
      cases h
      obtain ⟨b, hb, hr⟩ := exists_bucket_of_remaining hr
      exact ⟨z, b, rfl, fun name hname => (hfst hb).trans (Option.some.inj hname), hr⟩

/-- A run of rows of one name makes a record set of that name. -/
theorem whole_of_rowsOf {z : PoolZone} (hz : s.zone zone = .ok z)
    {territories : String → Except GeoError (List String)} {run : List Row} {r : RoutedRecordSet}
    (hrun : ∀ row ∈ run, ∃ b, row ∈ z.rowsOf name b)
    (h : Run.Makes Pool.provider territories run r) :
    Respelled r.name name ∧ ZoneAnswers.Whole (s.Origin zone) r := by
  have hrows : ∀ row ∈ run,
      row ∈ z.rows.map Prod.snd ∧ DomainName.same row.name name = true := by
    intro row hrow
    obtain ⟨b, hb⟩ := hrun row hrow
    obtain ⟨hmem, hsame⟩ := PoolZone.mem_rowsOf.mp hb
    exact ⟨List.mem_map_of_mem hmem, hsame⟩
  obtain ⟨names, hne, hmade, hnames⟩ :=
    RoutedRecordSet.whole_of_makes (fun row hrow => (hrows row hrow).1) h
  exact ⟨h.respelled fun row hrow => (hrows row hrow).2, names, hne, ⟨z, hz, hmade⟩, hnames⟩

theorem whole_of_bucketItems {z : PoolZone} (hz : s.zone zone = .ok z)
    {b : String × Bucket} {r : RoutedRecordSet}
    (h : .ok r ∈ BucketCursor.bucketItems s.reply zone regions b) :
    Respelled r.name b.1 ∧ ZoneAnswers.Whole (s.Origin zone) r := by
  rw [bucketItems_of_zone hz] at h
  obtain ⟨run, hrun, hmakes⟩ := Run.exists_makes_of_mem h
  have hmem : ∀ row ∈ run, row ∈ z.rowsOf b.1 b.2 := fun row hrow =>
    (Row.sort_perm _).mem_iff.mp (hrun row hrow)
  exact whole_of_rowsOf hz (fun row hrow => ⟨b.2, hmem row hrow⟩) hmakes

end

theorem ignoreSpelling (s : PoolStore) (zone : String) (regions : RegionTable) :
    (s.answers zone regions).IgnoreSpelling (s.Origin zone) := by
  apply ZoneAnswers.IgnoreSpelling.of_checked Pool.provider (s.answer zone regions)
    (s.answerTo zone regions)
  · intro selection
    exact Pool.items_of_store s zone regions selection
  · intro target
    exact Pool.getTarget_of_store s zone regions target
  · intro name name' h
    simp only [answer, Pool.planned, Except.map, remaining_of_key h]
  · intro name name' h type
    simp only [answer, Pool.planned, Except.map, remaining_of_key h]
  · intro name name' h type group
    simp only [answerTo, PoolZone.rowsFor, PoolZone.rowsOf_of_key h]
  · intro checked listed r h hr
    obtain ⟨z, b, hz, hname, hbucket⟩ := exists_bucket_of_answer h hr
    obtain ⟨hspelled, hwhole⟩ := whole_of_bucketItems hz hbucket
    refine ⟨?_, hwhole⟩
    intro name h
    rw [← hname name h]
    exact hspelled
  · intro checked r h
    cases hz : s.zone zone with
    | error e =>
      rw [answerTo, hz] at h
      cases h
    | ok z =>
      rw [answerTo, hz] at h
      obtain ⟨run, hrun, hmakes⟩ := Run.exists_makes_of_mem (Item.mem_upToError_of_first h)
      refine whole_of_rowsOf hz (fun row hrow => ?_) hmakes
      obtain ⟨⟨b, -, hb⟩, -⟩ := PoolZone.mem_rowsFor.mp (hrun row hrow)
      exact ⟨b, hb⟩

end PoolStore

/-! ## Services -/

namespace ServiceStore

/-- What the queries of a zone answer. -/
def answers (s : ServiceStore) (zone : String) (regions : RegionTable) : ZoneAnswers where
  items selection := ((GeoService.items source zone regions selection).run.run s).answer
  got target := ((GeoService.getTarget source zone regions target).run.run s).answer

/-- A record set is made of rows at the nodes of its zone. -/
def Origin (s : ServiceStore) (zone : String) (r : RoutedRecordSet) (names : List String) : Prop :=
  r.MadeOf GeoService.provider (s.services.values.flatMap (GeoService.rows {} zone)) names

section
variable {zone : String} {regions : RegionTable} {f : ServiceFilter}
  {services : List GeoService}

/-- Filters for a name keep the same items for all its spellings. -/
theorem itemsOf_of_key {name name' : String} (h : DomainName.key name = DomainName.key name')
    (type group : Option String) :
    GeoService.itemsOf zone regions ⟨some name, type, group⟩ services =
      GeoService.itemsOf zone regions ⟨some name', type, group⟩ services := by
  have hnode : ServiceFilter.keepsNode ⟨some name, type, group⟩ zone =
      ServiceFilter.keepsNode ⟨some name', type, group⟩ zone := by
    funext n
    simp only [ServiceFilter.keepsNode, Option.all_some, DomainName.same, h]
  have hrows : GeoService.rows ⟨some name, type, group⟩ zone =
      GeoService.rows ⟨some name', type, group⟩ zone := by
    funext s
    rw [GeoService.rows, GeoService.rows, hnode]
    rfl
  rw [GeoService.itemsOf, GeoService.itemsOf, GeoService.kept, GeoService.kept, hrows, hnode]

/-- A record set that is given is made of rows at nodes of the name asked for. -/
theorem whole_of_itemsOf {s : ServiceStore} {r : RoutedRecordSet}
    (h : .ok r ∈ GeoService.itemsOf zone regions f s.services.values) :
    (∀ name ∈ f.name, Respelled r.name name) ∧ ZoneAnswers.Whole (s.Origin zone) r := by
  obtain ⟨run, hrun, hmakes⟩ := Run.exists_makes_of_mem h
  have hkept : ∀ row ∈ run, row ∈ s.services.values.flatMap (GeoService.rows {} zone) ∧
      f.keepsRow row = true := by
    intro row hrow
    have hmem := hrun row hrow
    rw [GeoService.flatMap_rows_eq_filter] at hmem
    exact List.mem_filter.mp hmem
  refine ⟨?_, RoutedRecordSet.whole_of_makes (fun row hrow => (hkept row hrow).1) hmakes⟩
  intro name hname
  apply hmakes.respelled
  intro row hrow
  have hkeeps := (hkept row hrow).2
  rw [ServiceFilter.keepsRow, ServiceFilter.keeps, Option.mem_def.mp hname, Option.all_some,
    Bool.and_eq_true, Bool.and_eq_true] at hkeeps
  exact hkeeps.1.1

/-- What is done with the services that are got is done with those of the store. -/
theorem eq_ok_of_fetched_bind {α : Type} {s : ServiceStore}
    {answer : List GeoService → Except GeoError α} {b : α}
    (h : (GeoService.fetched source zone s).bind answer = .ok b) :
    answer s.services.values = .ok b := by
  cases hf : GeoService.fetched source zone s with
  | error e =>
    rw [hf] at h
    cases h
  | ok services =>
    obtain ⟨-, hservices⟩ := GeoService.fetched_eq_ok.mp hf
    cases Except.ok.inj hservices
    rw [hf] at h
    exact h

end

theorem ignoreSpelling (s : ServiceStore) (zone : String) (regions : RegionTable) :
    (s.answers zone regions).IgnoreSpelling (s.Origin zone) := by
  apply ZoneAnswers.IgnoreSpelling.of_checked GeoService.provider
    (fun checked => (GeoService.fetched source zone s).bind fun services =>
      .ok (GeoService.itemsOf zone regions (.ofSelection checked) services))
    (fun t => (GeoService.fetched source zone s).bind fun services =>
      Item.first (GeoService.itemsOf zone regions (.ofTarget t) services))
  · intro selection
    exact GeoService.answer_items source zone regions selection s
  · intro target
    exact GeoService.answer_getTarget source zone regions target s
  · intro name name' h
    simp only [itemsOf_of_key h, ServiceFilter.ofSelection]
  · intro name name' h type
    simp only [itemsOf_of_key h, ServiceFilter.ofSelection]
  · intro name name' h type group
    simp only [itemsOf_of_key h, ServiceFilter.ofTarget]
  · intro checked listed r h hr
    cases eq_ok_of_fetched_bind h
    obtain ⟨hname, hwhole⟩ := whole_of_itemsOf hr
    refine ⟨?_, hwhole⟩
    cases checked with
    | all => exact hname
    | named asked => exact hname
    | typed asked type => exact hname
  · intro checked r h
    have hitem := Item.mem_upToError_of_first (eq_ok_of_fetched_bind h)
    rw [GeoService.itemsOf, Item.upToError_upToError] at hitem
    obtain ⟨hname, hwhole⟩ := whole_of_itemsOf hitem
    exact ⟨hname checked.name rfl, hwhole⟩

end ServiceStore

/-- In any state of the stores and for any zone the queries ignore how names and types are spelled,
and tell names apart that differ otherwise. -/
theorem queries_ignore_spelling (zone : String) (regions : RegionTable) :
    (∀ s : RecordStore, (s.answers zone).IgnoreSpelling (s.Origin zone)) ∧
    (∀ s : PoolStore, (s.answers zone regions).IgnoreSpelling (s.Origin zone)) ∧
    ∀ s : ServiceStore, (s.answers zone regions).IgnoreSpelling (s.Origin zone) :=
  ⟨fun s => s.ignoreSpelling zone, fun s => s.ignoreSpelling zone regions,
    fun s => s.ignoreSpelling zone regions⟩

theorem got_of_crowdedStore :
    (Pool.crowdedStore.answers "z." ⟨.empty⟩).got ⟨"A.Z...", "A", "us"⟩ =
      .ok (some (Pool.addressSet "192.0.2.2" "us" "US")) := by
  obtain ⟨z, hz⟩ : ∃ z, Pool.crowdedStore.zone "z." = .ok z := ⟨_, rfl⟩
  have hn : Text.isBlank "A.Z..." = false := by decide +kernel
  have ht : Text.isBlank "A" = false := by decide +kernel
  have hg : Text.isBlank "us" = false := by decide +kernel
  refine (Pool.getTarget_of_zone hz hn ht hg).trans ?_
  cases hz
  decide +kernel

theorem queries_ignore_spelling_of_crowdedStore :
    (Pool.crowdedStore.answers "z." ⟨.empty⟩).items (.typed "a.z." "a") =
        (Pool.crowdedStore.answers "z." ⟨.empty⟩).items (.typed "A.Z..." "A") ∧
      (Pool.crowdedStore.answers "z." ⟨.empty⟩).got ⟨"a.z.", "a", "us"⟩ =
        .ok (some (Pool.addressSet "192.0.2.2" "us" "US")) ∧
      ¬ (Pool.crowdedStore.answers "z." ⟨.empty⟩).Gives
        (Pool.addressSet "192.0.2.2" "us" "US") (some "b.z.") := by
  obtain ⟨-, hpools, -⟩ := queries_ignore_spelling "z." ⟨.empty⟩
  have hlaws := hpools Pool.crowdedStore
  have hn : Text.isBlank "a.z." = false := by decide +kernel
  have hn' : Text.isBlank "A.Z..." = false := by decide +kernel
  have hname : Respelled "a.z." "A.Z..." := DomainName.respelled_iff.mpr (by decide +kernel)
  have htype : Text.lower "a" = Text.lower "A" := by decide +kernel
  refine ⟨hlaws.typed hn hn' hname htype, ?_, ?_⟩
  · rw [hlaws.got hn hn' hname htype "us"]
    exact got_of_crowdedStore
  · intro hgives
    have hsame := DomainName.respelled_iff.mp (hlaws.apart (.got got_of_crowdedStore) hgives)
    exact absurd hsame (by decide +kernel)

end GeoRouting
