import GeoRouting.Proofs.RecordStore.Listing
import GeoRouting.Proofs.Row.Sorting

/-!
# The record set of a target

The record set that is got for a group is the first that was put, and listings are sorted by
text. So it is the first one listed for its group when no fitting record set has a text before
its own, and only then.
-/

namespace GeoRouting.RecordStore

open RoutedRecordSet

theorem hasKind_of_goesTo {r : RoutedRecordSet} {group : String} (h : r.goesTo group = true) :
    r.hasKind Route.geoKind = true := by
  rw [hasKind, Dict.contains_eq_isSome]
  cases hr : r.routes.get? Route.geoKind with
  | none => simp [goesTo, geo?, hr] at h
  | some route => rfl

/-- The first record set stays the first when no text comes before its own. -/
theorem head?_sortByText_cons {r : RoutedRecordSet} {records : List RoutedRecordSet} :
    (sortByText (r :: records)).head? = some r ↔ ∀ t ∈ records, r.text ≤ t.text := by
  constructor
  · intro h t ht
    obtain ⟨rest, hrest⟩ := List.head?_eq_some_iff.mp h
    have hsorted := sortByText_pairwise (r :: records)
    have hmem := (sortByText_perm (r :: records)).mem_iff.mpr (List.mem_cons_of_mem r ht)
    rw [hrest] at hsorted hmem
    rcases List.mem_cons.mp hmem with rfl | hmem
    · exact le_refl _
    · exact (List.pairwise_cons.mp hsorted).1 t hmem
  · intro h
    have hbefore : (sortByText records).filter (fun t => !r.textLe t) = [] := by
      refine List.filter_eq_nil_iff.mpr fun t ht => ?_
      have hle : r.textLe t = true :=
        decide_eq_true (h t ((sortByText_perm records).mem_iff.mp ht))
      simp [hle]
    rw [sortByText_cons, insertByText, hbefore]
    rfl

theorem head?_eq_head?_sortByText (records : List RoutedRecordSet) :
    records.head? = (sortByText records).head? ↔
      ∀ first ∈ records.head?, ∀ t ∈ records, first.text ≤ t.text := by
  cases records with
  | nil => simp
  | cons r records =>
    rw [List.head?_cons, eq_comm, head?_sortByText_cons]
    simp

/-- What is got for a target. -/
def got (zone : String) (target : Target) : Query RecordStore (Option RoutedRecordSet) := do
  let r ← reader zone
  r.get target

section
variable {s : RecordStore} {zone name type group : String} {records : List RoutedRecordSet}

/-- Whether a record set is one of those that a target asks for. -/
def fits (name type group : String) (r : RoutedRecordSet) : Bool :=
  DomainName.same r.name name && r.type == type && r.goesTo group

theorem answer_got (hz : s.zones.get? zone = some records) (hn : Text.isBlank name = false)
    (ht : Text.isBlank type = false) (hg : Text.isBlank group = false) :
    ((got zone ⟨name, type, group⟩).run.run s).answer =
      .ok (records.find? (fits name (Text.upper type) group)) := by
  obtain ⟨r, hr, -, -, hget, -⟩ := run_reader hz
  have hrecords : s.records zone = .ok records := by rw [RecordStore.records, hz]
  refine Query.bind_eq_ok.mpr ⟨r, congrArg Outcome.answer hr, ?_⟩
  rw [hr, hget, getTarget, Target.check_eq_ok hn ht hg]
  exact Query.bind_eq_ok.mpr ⟨_, rfl, Query.bind_eq_ok.mpr ⟨_, rfl,
    Query.bind_eq_ok.mpr ⟨records, hrecords, rfl⟩⟩⟩

/-- The listed record sets that go to a group are those that fit, sorted. -/
theorem goesTo_of_listed (records : List RoutedRecordSet) (name type group : String) :
    ((sortedRoutes records).filter (covers (.typed name type))).filter (goesTo group) =
      sortByText (records.filter (fits name type group)) := by
  rw [sortedRoutes, ← sortByText_filter, ← sortByText_filter, List.filter_filter,
    List.filter_filter]
  refine congrArg sortByText (List.filter_congr fun r _ => ?_)
  cases hgroup : r.goesTo group with
  | false => simp [fits, hgroup]
  | true => simp [fits, covers, hgroup, hasKind_of_goesTo hgroup]

end

/-- What is got for a target is the first record set put that fits it, and nothing when no listed
record set goes to its group. It is the first listed one exactly when its text comes first among
the texts of all that fit, so always when there is one of them only. -/
theorem got_first_listed_iff {changes : List Change} {zone name type group : String}
    (hz : (ofHistory changes).containsZone zone = true) (hn : Text.isBlank name = false)
    (ht : Text.isBlank type = false) (hg : Text.isBlank group = false) :
    let fitting := (accepted zone changes).filter (fits name (Text.upper type) group)
    ∃ listed : List RoutedRecordSet,
      ((items zone (.typed name type)).run.run (ofHistory changes)).answer =
        .ok (listed.map .ok) ∧
      ((got zone ⟨name, type, group⟩).run.run (ofHistory changes)).answer = .ok fitting.head? ∧
      (((got zone ⟨name, type, group⟩).run.run (ofHistory changes)).answer = .ok none ↔
        listed.find? (goesTo group) = none) ∧
      (((got zone ⟨name, type, group⟩).run.run (ofHistory changes)).answer =
          .ok (listed.find? (goesTo group)) ↔
        ∀ first ∈ fitting.head?, ∀ r ∈ fitting, first.text ≤ r.text) := by
  intro fitting
  have hrecords := get?_of_containsZone hz
  have hfind : ((sortedRoutes (accepted zone changes)).filter
      (covers (.typed name (Text.upper type)))).find? (goesTo group) =
        (sortByText fitting).head? := by
    rw [← List.head?_filter, goesTo_of_listed]
  refine ⟨(sortedRoutes (accepted zone changes)).filter
    (covers (.typed name (Text.upper type))), ?_, ?_, ?_, ?_⟩
  · rw [answer_items hrecords, Selection.check_typed hn ht]
    rfl
  · rw [answer_got hrecords hn ht hg, ← List.head?_filter]
  · rw [answer_got hrecords hn ht hg, ← List.head?_filter, hfind, Except.ok.injEq,
      List.head?_eq_none_iff, List.head?_eq_none_iff, ← List.perm_nil, ← List.perm_nil]
    exact ((sortByText_perm fitting).congr_left []).symm
  · rw [answer_got hrecords hn ht hg, ← List.head?_filter, hfind, Except.ok.injEq]
    exact head?_eq_head?_sortByText fitting

/-- A record set of one address and time to live, for one group. -/
def ttlSet (ttl : UInt32) (group : String) : RoutedRecordSet :=
  ⟨⟨"a.z.", "A", some ttl, [.single "address" (.text "192.0.2.1")]⟩, groupRoutes group⟩

theorem got_first_listed_of_groups :
    let changes : List Change := [.addZone "z.", .put "z." (ttlSet 300 "us"),
      .put "z." (ttlSet 20 "eu"), .put "z." (ttlSet 30 "eu")]
    (ofHistory changes).containsZone "z." = true ∧ Text.isBlank "A.z" = false ∧
      Text.isBlank "a" = false ∧ Text.isBlank "eu" = false ∧
      ∃ listed : List RoutedRecordSet,
        ((items "z." (.typed "A.z" "a")).run.run (ofHistory changes)).answer =
          .ok (listed.map .ok) ∧
        listed.find? (goesTo "eu") = some (ttlSet 20 "eu") ∧
        ((got "z." ⟨"A.z", "a", "eu"⟩).run.run (ofHistory changes)).answer =
          .ok (some (ttlSet 20 "eu")) := by
  intro changes
  have hz : (ofHistory changes).containsZone "z." = true := by decide +kernel
  have hn : Text.isBlank "A.z" = false := by decide +kernel
  have ht : Text.isBlank "a" = false := by decide +kernel
  have hg : Text.isBlank "eu" = false := by decide +kernel
  obtain ⟨listed, hlisted, hgot, -, hiff⟩ := got_first_listed_iff hz hn ht hg
  have hfirst := hiff.mpr (by decide +kernel)
  have hset : ((got "z." ⟨"A.z", "a", "eu"⟩).run.run (ofHistory changes)).answer =
      .ok (some (ttlSet 20 "eu")) := hgot.trans (by decide +kernel)
  exact ⟨hz, hn, ht, hg, listed, hlisted, (Except.ok.inj (hset.symm.trans hfirst)).symm, hset⟩

/-- The record set put first is got, and the other one is listed first. -/
theorem got_is_listed_second :
    let store := ofHistory
      [.addZone "z.", .put "z." (ttlSet 300 "eu"), .put "z." (ttlSet 20 "eu")]
    ((items "z." (.typed "a.z." "A")).run.run store).answer =
        .ok [.ok (ttlSet 20 "eu"), .ok (ttlSet 300 "eu")] ∧
      ([ttlSet 20 "eu", ttlSet 300 "eu"].find? (goesTo "eu")) = some (ttlSet 20 "eu") ∧
      ((got "z." ⟨"a.z.", "A", "eu"⟩).run.run store).answer = .ok (some (ttlSet 300 "eu")) := by
  intro store
  have hz : store.containsZone "z." = true := by decide +kernel
  refine ⟨?_, by decide +kernel, by decide +kernel⟩
  rw [answer_items (get?_of_containsZone hz), sortedRoutes, sortByText_eq_foldr]
  decide +kernel

end GeoRouting.RecordStore
