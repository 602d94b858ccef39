import GeoRouting.Proofs.RecordStore.StoredRecords
import GeoRouting.Proofs.Text.ByteOrder
import GeoRouting.RecordStore.Reader

/-!
# Listings of a record store

Sorting by text is stable, so it does not matter whether record sets are left out before the sort
or after it: the narrower listings are parts of the listing of a zone. The order in which record
sets were put shows only where texts tie, and in the texts themselves not at all.
-/

namespace GeoRouting

namespace RoutedRecordSet

/-- Whether the text of a record set comes before that of another, or is the same. -/
def textLe (r t : RoutedRecordSet) : Bool := r.text ≤ t.text

theorem textLe_trans (r s t : RoutedRecordSet) (h : r.textLe s = true) (h' : s.textLe t = true) :
    r.textLe t = true :=
  decide_eq_true ((of_decide_eq_true h).trans (of_decide_eq_true h'))

theorem textLe_total (r t : RoutedRecordSet) : (r.textLe t || t.textLe r) = true := by
  simp only [textLe, Bool.or_eq_true, decide_eq_true_eq]
  exact le_total r.text t.text

end RoutedRecordSet

namespace RecordStore

open RoutedRecordSet

/-! ## Sorting by text -/

theorem sortByText_eq_mergeSort (records : List RoutedRecordSet) :
    sortByText records = records.mergeSort textLe := by
  have hkeyed : (records.mergeSort textLe).map (fun r => (r.text, r)) =
      (records.map fun r => (r.text, r)).mergeSort (fun a b => a.1 ≤ b.1) :=
    List.map_mergeSort fun _ _ _ _ => rfl
  rw [sortByText, ← hkeyed, List.map_map]
  exact List.map_id _

theorem sortByText_perm (records : List RoutedRecordSet) : (sortByText records).Perm records :=
  sortByText_eq_mergeSort records ▸ List.mergeSort_perm records textLe

theorem sortByText_pairwise (records : List RoutedRecordSet) :
    (sortByText records).Pairwise fun r t => r.text ≤ t.text := by
  rw [sortByText_eq_mergeSort]
  exact (List.pairwise_mergeSort textLe_trans textLe_total records).imp of_decide_eq_true

@[simp]
theorem sortByText_nil : sortByText [] = [] :=
  List.Perm.eq_nil (sortByText_perm [])

/-- One more record set goes between those whose texts come before its own and the others. -/
theorem exists_sortByText_cons (r : RoutedRecordSet) (records : List RoutedRecordSet) :
    ∃ before rest, sortByText records = before ++ rest ∧
      sortByText (r :: records) = before ++ r :: rest ∧
      (∀ t ∈ before, r.textLe t = false) ∧ ∀ t ∈ rest, r.textLe t = true := by
  obtain ⟨before, rest, hcons, hrecords, hbefore⟩ :=
    List.mergeSort_cons textLe_trans textLe_total r records
  have hsorted := List.pairwise_mergeSort textLe_trans textLe_total (r :: records)
  rw [hcons] at hsorted
  refine ⟨before, rest, ?_, ?_, fun t ht => by simpa using hbefore t ht,
    (List.pairwise_cons.mp (List.pairwise_append.mp hsorted).2.1).1⟩
  · rw [sortByText_eq_mergeSort, hrecords]
  · rw [sortByText_eq_mergeSort, hcons]

/-- Puts a record set between those of a sorted list. -/
def insertByText (r : RoutedRecordSet) (sorted : List RoutedRecordSet) : List RoutedRecordSet :=
  sorted.filter (fun t => !r.textLe t) ++ r :: sorted.filter r.textLe

theorem sortByText_cons (r : RoutedRecordSet) (records : List RoutedRecordSet) :
    sortByText (r :: records) = insertByText r (sortByText records) := by
  obtain ⟨before, rest, hrecords, hcons, hbefore, hrest⟩ := exists_sortByText_cons r records
  have hleft : (before ++ rest).filter (fun t => !r.textLe t) = before := by
    rw [List.filter_append, List.filter_eq_self.mpr fun t ht => by simp [hbefore t ht],
      List.filter_eq_nil_iff.mpr fun t ht => by simp [hrest t ht], List.append_nil]
  have hright : (before ++ rest).filter r.textLe = rest := by
    rw [List.filter_append, List.filter_eq_self.mpr hrest,
      List.filter_eq_nil_iff.mpr fun t ht => by simp [hbefore t ht], List.nil_append]
  rw [hcons, hrecords, insertByText, hleft, hright]

theorem sortByText_eq_foldr (records : List RoutedRecordSet) :
    sortByText records = records.foldr insertByText [] := by
  induction records with
  | nil => exact sortByText_nil
  | cons r records ih => rw [sortByText_cons, ih, List.foldr_cons]

/-- Record sets can be left out before they are sorted or afterwards. -/
theorem sortByText_filter (p : RoutedRecordSet → Bool) (records : List RoutedRecordSet) :
    sortByText (records.filter p) = (sortByText records).filter p := by
  induction records with
  | nil => simp
  | cons r records ih =>
    cases hp : p r with
    | true =>
      rw [List.filter_cons_of_pos hp, sortByText_cons, sortByText_cons, ih, insertByText,
        insertByText, List.filter_append, List.filter_cons_of_pos hp]
      simp only [List.filter_filter, Bool.and_comm]
    | false =>
      obtain ⟨before, rest, hrecords, hcons, -, -⟩ := exists_sortByText_cons r records
      have hr : ¬ p r = true := by simp [hp]
      rw [List.filter_cons_of_neg hr, ih, hrecords, hcons, List.filter_append, List.filter_append,
        List.filter_cons_of_neg hr]

/-- The texts of a listing do not depend on the order in which record sets were put. -/
theorem map_text_sortByText {records others : List RoutedRecordSet} (h : records.Perm others) :
    (sortByText records).map text = (sortByText others).map text := by
  have hsorted (sets : List RoutedRecordSet) : ((sortByText sets).map text).Pairwise (· ≤ ·) :=
    List.pairwise_map.mpr (sortByText_pairwise sets)
  have hperm := (sortByText_perm records).trans (h.trans (sortByText_perm others).symm)
  exact (hperm.map text).eq_of_pairwise (fun _ _ _ _ => le_antisymm) (hsorted records)
    (hsorted others)

/-! ## Listings -/

/-- The record sets of which a listing covers some, in its order. -/
def sortedRoutes (records : List RoutedRecordSet) : List RoutedRecordSet :=
  sortByText (records.filter fun r => r.hasKind Route.geoKind)

theorem sortByText_covered (records : List RoutedRecordSet) (selection : Selection) :
    sortByText (records.filter fun r => r.hasKind Route.geoKind && covers selection r) =
      (sortedRoutes records).filter (covers selection) := by
  rw [sortedRoutes, ← sortByText_filter, List.filter_filter]
  simp only [Bool.and_comm]

/-- All that a listing gives. -/
def items (zone : String) (selection : Selection) : Query RecordStore (List Item) := do
  let r ← reader zone
  let listing ← r.list selection
  ExceptT.lift (r.drain listing)

section
variable {s : RecordStore} {zone : String} {records : List RoutedRecordSet}

theorem answer_snapshot (hz : s.zones.get? zone = some records) (selection : Selection) :
    ((snapshot zone selection).run.run s).answer =
      .ok ((sortedRoutes records).filter (covers selection)) := by
  have hrecords : s.records zone = .ok records := by rw [RecordStore.records, hz]
  rw [← sortByText_covered, snapshot, Query.run_bind_ok (by rw [Query.run_lift]),
    Query.run_bind_ok (a := records) (by simpa using hrecords)]
  rfl

theorem answer_list (hz : s.zones.get? zone = some records) (selection : Selection) :
    ((list zone selection).run.run s).answer =
      (selection.check provider).map fun checked =>
        (sortedRoutes records).filter (covers checked) := by
  rw [list]
  cases hc : selection.check provider with
  | error e =>
    rw [Query.run_bind_error (congrArg Outcome.answer (Query.run_ofExcept _ s))]
    rfl
  | ok checked =>
    rw [Query.run_bind_ok (congrArg Outcome.answer (Query.run_ofExcept _ s)), Query.run_ofExcept]
    by_cases hall : checked = .all
    · simp only [if_pos hall]
      rw [Query.run_bind_ok rfl, Query.run_say]
      exact answer_snapshot hz checked
    · simp only [if_neg hall]
      exact answer_snapshot hz checked

theorem run_reader (hz : s.zones.get? zone = some records) :
    ∃ r, (reader zone).run.run s = ⟨.ok r, s, []⟩ ∧ r.list = list zone ∧
      (r.drain = fun listing => return listing.map .ok) ∧ r.get = getTarget zone ∧
      r.regions = return (← Act.get).regions zone := by
  have hc : s.containsZone zone = true := containsZone_iff.mpr ⟨records, hz⟩
  rw [reader, Query.run_bind_ok rfl]
  simp only [Query.run_lift, Act.run_get, hc]
  exact ⟨_, rfl, rfl, rfl, rfl, rfl⟩

theorem answer_items (hz : s.zones.get? zone = some records) (selection : Selection) :
    ((items zone selection).run.run s).answer =
      (selection.check provider).map fun checked =>
        ((sortedRoutes records).filter (covers checked)).map .ok := by
  obtain ⟨r, hr, hlist, hdrain, -⟩ := run_reader hz
  rw [items, Query.run_bind_ok (congrArg Outcome.answer hr), hr, hlist, hdrain]
  have hanswer := answer_list hz selection
  cases hchecked : selection.check provider with
  | error e =>
    rw [hchecked] at hanswer
    rw [Query.run_bind_error hanswer]
    rfl
  | ok checked =>
    rw [hchecked] at hanswer
    rw [Query.run_bind_ok hanswer]
    rfl

theorem count_sortedRoutes (records : List RoutedRecordSet) (r : RoutedRecordSet) :
    (sortedRoutes records).count r = if r.hasKind Route.geoKind then records.count r else 0 := by
  rw [sortedRoutes, (sortByText_perm _).count_eq]
  split
  · rename_i hr
    exact List.count_filter hr
  · rename_i hr
    exact List.count_eq_zero.mpr fun hmem => hr (List.mem_filter.mp hmem).2

theorem map_text_covered {others : List RoutedRecordSet} (h : records.Perm others)
    (selection : Selection) :
    ((sortedRoutes records).filter (covers selection)).map text =
      ((sortedRoutes others).filter (covers selection)).map text := by
  rw [← sortByText_covered, ← sortByText_covered]
  exact map_text_sortByText (h.filter _)

/-- The texts of what a listing gives. -/
def texts (items : List Item) : List (Except GeoError String) := items.map (Except.map text)

theorem texts_map_ok (sets : List RoutedRecordSet) :
    texts (sets.map .ok) = (sets.map text).map .ok := by
  rw [texts, List.map_map, List.map_map]
  rfl

end

/-- A listing gives the record sets of a zone that have a geographic route, each as often as it
was put, in the byte order of their texts. Narrower listings are parts of it, if none of their
texts is blank. The texts of every listing stay what they are when the same record sets are put
in another order. -/
theorem listings_of_history {changes : List Change} {zone : String}
    (hz : (ofHistory changes).containsZone zone = true) :
    ∃ sets : List RoutedRecordSet,
      ((items zone .all).run.run (ofHistory changes)).answer = .ok (sets.map .ok) ∧
      (∀ r, sets.count r =
        if r.hasKind Route.geoKind then (accepted zone changes).count r else 0) ∧
      sets.Pairwise (fun r t => Text.bytes r.text ≤ Text.bytes t.text) ∧
      (∀ name, ((items zone (.named name)).run.run (ofHistory changes)).answer =
        if Text.isBlank name then .error (.emptyArgument provider "name")
        else .ok ((sets.filter fun r => DomainName.same r.name name).map .ok)) ∧
      (∀ name type, ((items zone (.typed name type)).run.run (ofHistory changes)).answer =
        if Text.isBlank name then .error (.emptyArgument provider "name")
        else if Text.isBlank type then .error (.emptyArgument provider "type")
        else .ok (((sets.filter fun r => DomainName.same r.name name).filter fun r =>
          r.type == Text.upper type).map .ok)) ∧
      ∀ others, (ofHistory others).containsZone zone = true →
        (accepted zone others).Perm (accepted zone changes) → ∀ selection,
        ((items zone selection).run.run (ofHistory others)).answer.map texts =
          ((items zone selection).run.run (ofHistory changes)).answer.map texts := by
  have hrecords := get?_of_containsZone hz
  refine ⟨sortedRoutes (accepted zone changes), ?_, count_sortedRoutes _, ?_, ?_, ?_, ?_⟩
  · rw [answer_items hrecords, Selection.check_all]
    exact congrArg (fun sets => Except.ok (List.map Except.ok sets)) (List.filter_true _)
  · exact (sortByText_pairwise _).imp Text.le_iff_bytes_le.mp
  · intro name
    rw [answer_items hrecords]
    cases hn : Text.isBlank name with
    | true => rw [Selection.check, requireText, hn]; rfl
    | false => rw [Selection.check_named hn]; rfl
  · intro name type
    rw [answer_items hrecords, List.filter_filter]
    cases hn : Text.isBlank name with
    | true => rw [Selection.check, requireText, hn]; rfl
    | false =>
      cases ht : Text.isBlank type with
      | true => rw [Selection.check, requireText_eq_ok.mpr hn, requireText, ht]; rfl
      | false =>
        rw [Selection.check_typed hn ht]
        simp only [Bool.and_comm (_ == Text.upper type)]
        rfl
  · intro others hothers hperm selection
    rw [answer_items hrecords, answer_items (get?_of_containsZone hothers)]
    cases selection.check provider with
    | error e => rfl
    | ok checked =>
      simp only [Except.map, texts_map_ok]
      rw [map_text_covered hperm checked]

/-- A record set of one preference, routed unless its routes are empty. -/
def preferenceSet (name : String) (preference : Json.Value) (routes : Dict Route) :
    RoutedRecordSet :=
  ⟨⟨name, "MX", none, [.single "preference" preference]⟩, routes⟩

/-- The routes of a record set for one group. -/
def groupRoutes (group : String) : Dict Route := .single Route.geoKind (.geo ⟨group, ["BE"], false⟩)

/-- Puts the text 10, the number 10 and others that are refused, unrouted or of another name. -/
def tiedChanges : List Change :=
  [.put "z." (preferenceSet "early.z." .null (groupRoutes "eu")),
    .addZone "z.",
    .put "z." (preferenceSet "b.z." (.bool true) (groupRoutes "eu")),
    .put "z." (preferenceSet "a.z." (.text "10") (groupRoutes "eu")),
    .put "z." (preferenceSet "a.z." .null .empty),
    .addZone "z.",
    .put "z." (preferenceSet "a.z." (.number (.integer 10)) (groupRoutes "eu"))]

/-- Puts the same record sets the other way round. -/
def reversedChanges : List Change := .addZone "z." :: tiedChanges.tail.reverse

theorem listings_of_tied_texts :
    let ten := preferenceSet "a.z." (.text "10") (groupRoutes "eu")
    let number := preferenceSet "a.z." (.number (.integer 10)) (groupRoutes "eu")
    let other := preferenceSet "b.z." (.bool true) (groupRoutes "eu")
    (ofHistory tiedChanges).containsZone "z." = true ∧ ten.text = number.text ∧
      ((items "z." .all).run.run (ofHistory tiedChanges)).answer =
        .ok ([ten, number, other].map .ok) ∧
      ((items "z." (.named "A.z")).run.run (ofHistory tiedChanges)).answer =
        .ok ([ten, number].map .ok) ∧
      ((items "z." (.typed "A.z" "mx")).run.run (ofHistory tiedChanges)).answer =
        .ok ([ten, number].map .ok) ∧
      ((items "z." .all).run.run (ofHistory reversedChanges)).answer =
        .ok ([number, ten, other].map .ok) ∧
      ((items "z." .all).run.run (ofHistory reversedChanges)).answer.map texts =
        ((items "z." .all).run.run (ofHistory tiedChanges)).answer.map texts := by
  intro ten number other
  have hz : (ofHistory tiedChanges).containsZone "z." = true := by decide +kernel
  have hz' : (ofHistory reversedChanges).containsZone "z." = true := by decide +kernel
  have hall : ((items "z." .all).run.run (ofHistory tiedChanges)).answer =
      .ok ([ten, number, other].map .ok) := by
    rw [answer_items (get?_of_containsZone hz), sortedRoutes, sortByText_eq_foldr]
    decide +kernel
  obtain ⟨sets, hsets, -, -, hnamed, htyped, hothers⟩ := listings_of_history hz
  obtain rfl : sets = [ten, number, other] :=
    List.map_injective_iff.mpr (fun _ _ => Except.ok.inj) (Except.ok.inj (hsets.symm.trans hall))
  refine ⟨hz, by decide +kernel, hall, ?_, ?_, ?_, ?_⟩
  · rw [hnamed]
    decide +kernel
  · rw [htyped]
    decide +kernel
  · rw [answer_items (get?_of_containsZone hz'), sortedRoutes, sortByText_eq_foldr]
    decide +kernel
  · exact hothers reversedChanges hz' (by decide +kernel) .all

/-- A record set whose name is blank is listed, and a query for its name is refused. -/
theorem blank_name_is_listed_not_queried :
    let blank := preferenceSet " " .null (groupRoutes "eu")
    let store := ofHistory [.addZone "z.", .put "z." blank]
    ((items "z." .all).run.run store).answer = .ok [.ok blank] ∧
      DomainName.same blank.name " " = true ∧
      ((items "z." (.named " ")).run.run store).answer =
        .error (.invalidArgument "mock" "name" "must not be empty") := by
  decide +kernel

end RecordStore

end GeoRouting
