import GeoRouting.Proofs.Row.Accounting
import GeoRouting.Proofs.Row.Joint

/-!
# Leaving out rows before or after grouping

Rows can be left out before they are grouped, or the record sets that they make can be left out
afterwards. Where runs are kept or left out as wholes this comes to the same, unless two runs
that are kept become one when what stands between them is left out, or a group is resolved
otherwise then.
-/

namespace GeoRouting

namespace Row

/-- Whether some rows go on with the run that other rows end with. -/
def goesOn (xs ys : List Row) : Bool := xs.getLast?.any fun x => ys.head?.any fun y => x.agrees y

theorem goesOn_eq_false {xs ys : List Row} :
    goesOn xs ys = false ↔ ∀ x ∈ xs.getLast?, ∀ y ∈ ys.head?, x.agrees y = false := by
  unfold goesOn
  cases xs.getLast? with
  | none => simp
  | some x =>
    cases ys.head? with
    | none => simp
    | some y => simp

/-- Rows that are one run when nothing is around them. -/
def IsRun (run : List Row) : Prop :=
  ∃ first others, run = first :: others ∧ ∀ r ∈ others, r.sameRun first = true

theorem isRun_of_mem_runs {rows run : List Row} (h : run ∈ runs rows) : IsRun run := by
  cases run with
  | nil => exact absurd h (List.nil_notMem_splitBy agrees rows)
  | cons first others =>
    exact ⟨first, others, rfl, fun r hr => sameRun_of_agrees (agrees_of_mem_runs h hr)⟩

theorem sameRun_of_goesOn {first b : Row} {others more : List Row}
    (h : ∀ r ∈ others, r.sameRun first = true)
    (hgo : goesOn (first :: others) (b :: more) = true) : b.sameRun first = true := by
  obtain ⟨x, hx⟩ : ∃ x, (first :: others).getLast? = some x :=
    ⟨_, List.getLast?_eq_some_getLast (List.cons_ne_nil first others)⟩
  rw [goesOn, hx] at hgo
  have hxb : x.agrees b = true := hgo
  rw [sameRun_eq_agrees]
  rcases List.mem_cons.mp (List.mem_of_getLast? hx) with rfl | hmem
  · exact agrees_symm hxb
  · have hxf := h x hmem
    rw [sameRun_eq_agrees] at hxf
    exact agrees_trans (agrees_symm hxb) hxf

/-- A run before other runs is cut off where the next one does not go on with it. -/
theorem runs_run_append {run : List Row} {ls : List (List Row)} (hrun : IsRun run)
    (hls : ∀ next ∈ ls, IsRun next) (h : ∀ next ∈ ls.head?, goesOn run next = false) :
    runs (run ++ ls.flatten) = run :: runs ls.flatten := by
  obtain ⟨first, others, rfl, hsame⟩ := hrun
  have hcut : ∀ x ∈ (first :: others).getLast?, ∀ y ∈ ls.flatten.head?,
      x.agrees y = false := by
    cases ls with
    | nil => exact fun _ _ _ hy => nomatch hy
    | cons next ls =>
      obtain ⟨b, more, rfl, -⟩ := hls next List.mem_cons_self
      exact goesOn_eq_false.mp (h (b :: more) rfl)
  rw [runs_append hcut, runs_of_sameRun hsame]
  rfl

/-- Runs of which none goes on with the one before stay as they are. -/
theorem runs_flatten {ls : List (List Row)} (hls : ∀ run ∈ ls, IsRun run)
    (h : ls.IsChain fun xs ys => goesOn xs ys = false) : runs ls.flatten = ls := by
  induction ls with
  | nil => rfl
  | cons run ls ih =>
    obtain ⟨hrun, hrest⟩ := List.forall_mem_cons.mp hls
    obtain ⟨hhead, hchain⟩ := List.isChain_cons.mp h
    rw [List.flatten_cons, runs_run_append hrun hrest hhead, ih hrest hchain]

/-- Joined runs are fewer where one of them goes on with the one before. -/
theorem length_runs_flatten {ls : List (List Row)} (hls : ∀ run ∈ ls, IsRun run) :
    (runs ls.flatten).length ≤ ls.length ∧
      ((runs ls.flatten).length = ls.length →
        ls.IsChain fun xs ys => goesOn xs ys = false) := by
  induction ls with
  | nil => exact ⟨Nat.le_refl 0, fun _ => List.isChain_nil⟩
  | cons run ls ih =>
    obtain ⟨hrun, hrest⟩ := List.forall_mem_cons.mp hls
    obtain ⟨hle, hchain⟩ := ih hrest
    rw [List.flatten_cons]
    by_cases h : ∀ next ∈ ls.head?, goesOn run next = false
    · rw [runs_run_append hrun hrest h]
      refine ⟨Nat.succ_le_succ hle, fun hl => ?_⟩
      exact List.isChain_cons.mpr ⟨h, hchain (Nat.succ.inj hl)⟩
    · have hcount : (runs (run ++ ls.flatten)).length = (runs ls.flatten).length := by
        cases ls with
        | nil => exact absurd (fun _ hn => nomatch hn) h
        | cons next ls =>
          obtain ⟨first, others, rfl, hsame⟩ := hrun
          obtain ⟨b, more, rfl, -⟩ := hrest next List.mem_cons_self
          have hgo : goesOn (first :: others) (b :: more) = true := by
            rw [← Bool.not_eq_false]
            exact fun hf => h fun _ hn => Option.some.inj hn ▸ hf
          change (runs (first :: others ++ b :: (more ++ ls.flatten))).length =
            (runs (b :: (more ++ ls.flatten))).length
          rw [runs_append_of_sameRun hsame (sameRun_of_goesOn hsame hgo), runs_cons]
          rfl
      have hlt : (runs (run ++ ls.flatten)).length < (run :: ls).length := by
        rw [hcount]
        exact Nat.lt_succ_of_le hle
      exact ⟨Nat.le_of_lt hlt, fun hl => absurd hl (Nat.ne_of_lt hlt)⟩

/-! ## Keeping whole runs -/

/-- The runs that are kept, told by their first rows. -/
def keptRuns (keep : Row → Bool) (rows : List Row) : List (List Row) :=
  (runs rows).filter fun run => run.head?.any keep

section
variable {keep : Row → Bool}

theorem flatten_keptRuns (hk : ∀ r s, r.agrees s = true → keep r = keep s) (rows : List Row) :
    (keptRuns keep rows).flatten = rows.filter keep := by
  have hwhole : ∀ first others, first :: others ∈ runs rows →
      ∀ r ∈ first :: others, keep r = keep first := by
    intro first others h r hr
    rcases List.mem_cons.mp hr with rfl | hr
    · rfl
    · exact (hk first r (agrees_of_mem_runs h hr)).symm
  have hrows : (runs rows).flatten = rows := List.flatten_splitBy agrees rows
  unfold keptRuns
  conv_rhs => rw [← hrows]
  generalize runs rows = runs at hwhole
  induction runs with
  | nil => rfl
  | cons run runs ih =>
    have hrest := ih fun f o h => hwhole f o (List.mem_cons_of_mem run h)
    rw [List.flatten_cons, List.filter_append, ← hrest]
    cases run with
    | nil => rfl
    | cons first others =>
      have hrun := hwhole first others List.mem_cons_self
      have hhead : (first :: others).head?.any keep = keep first := rfl
      cases hf : keep first with
      | true =>
        have hall : (first :: others).filter keep = first :: others :=
          List.filter_eq_self.mpr fun r hr => (hrun r hr).trans hf
        rw [hall, List.filter_cons, hhead, hf, if_pos rfl, List.flatten_cons]
      | false =>
        have hnone : (first :: others).filter keep = [] := by
          apply List.filter_eq_nil_iff.mpr
          intro r hr
          rw [hrun r hr, hf]
          exact Bool.false_ne_true
        rw [hnone, List.filter_cons, hhead, hf, if_neg Bool.false_ne_true, List.nil_append]

theorem isRun_of_mem_keptRuns {rows run : List Row} (h : run ∈ keptRuns keep rows) : IsRun run :=
  isRun_of_mem_runs (List.mem_filter.mp h).1

theorem runs_filter_of_isChain (hk : ∀ r s, r.agrees s = true → keep r = keep s)
    {rows : List Row} (h : (keptRuns keep rows).IsChain fun xs ys => goesOn xs ys = false) :
    runs (rows.filter keep) = keptRuns keep rows := by
  rw [← flatten_keptRuns hk]
  exact runs_flatten (fun _ hrun => isRun_of_mem_keptRuns hrun) h

theorem isChain_of_length_runs_filter (hk : ∀ r s, r.agrees s = true → keep r = keep s)
    {rows : List Row}
    (h : (runs (rows.filter keep)).length = (keptRuns keep rows).length) :
    (keptRuns keep rows).IsChain fun xs ys => goesOn xs ys = false := by
  rw [← flatten_keptRuns hk] at h
  exact (length_runs_flatten fun _ hrun => isRun_of_mem_keptRuns hrun).2 h

end

end Row

namespace Run
variable {provider : String} {territories other : String → Except GeoError (List String)}

/-- Whether the group of a row is resolved as before. -/
def Alike (territories other : String → Except GeoError (List String)) (first : Row) : Prop :=
  ∀ g ∈ first.group?, other g.id = territories g.id

instance (territories other : String → Except GeoError (List String)) (first : Row) :
    Decidable (Alike territories other first) :=
  inferInstanceAs (Decidable (∀ g ∈ first.group?, other g.id = territories g.id))

theorem item_of_alike {first : Row} (h : Alike territories other first) (others : List Row) :
    item provider other first others = item provider territories first others :=
  item_congr h others

/-- A record set shows what its group was resolved to. -/
theorem alike_of_item_eq_ok {first : Row} {others others' : List Row} {r : RoutedRecordSet}
    (h : item provider territories first others = .ok r)
    (h' : item provider other first others' = .ok r) : Alike territories other first := by
  obtain ⟨g, codes, hg, hcodes, -, -, -, hr⟩ := item_eq_ok.mp h
  obtain ⟨g', codes', hg', hcodes', -, -, -, hr'⟩ := item_eq_ok.mp h'
  cases Option.some.inj (hg.symm.trans hg')
  have hsame : some codes = some codes' :=
    congrArg (fun r => r.geo?.map GeoRoute.territories) (hr.symm.trans hr')
  intro x hx
  cases Option.some.inj (hg.symm.trans hx)
  rw [hcodes, hcodes', Option.some.inj hsame]

/-- With further rows a run makes the record set that it made before only when nothing is
answered in it. -/
theorem item_append_iff {first : Row} {others more : List Row} {r : RoutedRecordSet}
    (h : item provider territories first others = .ok r) :
    item provider other first (others ++ more) = .ok r ↔
      Alike territories other first ∧
        ∀ s ∈ more, first.noResponse = true ∧ s.noResponse = true := by
  constructor
  · intro hm
    have halike := alike_of_item_eq_ok h hm
    refine ⟨halike, ?_⟩
    rw [item_of_alike halike] at hm
    cases more with
    | nil => exact fun _ hs => nomatch hs
    | cons b more =>
      obtain ⟨hfirst, -⟩ := noResponse_of_item_append h hm
      obtain ⟨-, -, -, -, -, hjoin, -, -⟩ := item_eq_ok.mp hm
      intro s hs
      have hj := List.flatMap_eq_nil_iff.mp hjoin s (List.mem_append_right others hs)
      exact ⟨hfirst, (Row.noResponse_of_joinProblems hj).trans hfirst⟩
  · rintro ⟨halike, hmore⟩
    rw [item_of_alike halike, ← h]
    cases more with
    | nil => rw [List.append_nil]
    | cons b more =>
      exact item_append_of_noResponse (hmore b List.mem_cons_self).1 (fun s hs => (hmore s hs).2) _

theorem forall₂_makes_iff {runs : List (List Row)} {sets : List RoutedRecordSet}
    (h : List.Forall₂ (Makes provider territories) runs sets) :
    List.Forall₂ (Makes provider other) runs sets ↔
      ∀ run ∈ runs, ∀ first ∈ run.head?, Alike territories other first := by
  induction h with
  | nil => simp
  | @cons run r runs sets hmakes _ ih =>
    rw [List.forall₂_cons, ih, List.forall_mem_cons]
    refine and_congr_left' ?_
    obtain ⟨first, others, rfl, ho, hi⟩ := hmakes
    constructor
    · rintro ⟨first', others', hrun, -, hi'⟩ x hx
      obtain ⟨rfl, rfl⟩ := List.cons.inj hrun
      cases Option.some.inj hx
      exact alike_of_item_eq_ok hi hi'
    · intro halike
      exact ⟨first, others, rfl, ho, (item_of_alike (halike first rfl) others).trans hi⟩

/-! ## Leaving out before or after -/

/-- What the runs that are kept must be like so that the rows that are kept make the record sets
that are kept: none goes on with the one before, and their groups are resolved as before. -/
structure Selects (territories other : String → Except GeoError (List String))
    (keep : Row → Bool) (rows : List Row) : Prop where
  apart : (Row.keptRuns keep rows).IsChain fun xs ys => Row.goesOn xs ys = false
  alike : ∀ run ∈ Row.keptRuns keep rows, ∀ first ∈ run.head?, Alike territories other first

/-- The same for the first record set alone: rows may go on with the first run that is kept as
long as nothing is answered in it. -/
def SelectsFirst (territories other : String → Except GeoError (List String))
    (keep : Row → Bool) (rows : List Row) : Prop :=
  ∀ run ∈ (Row.keptRuns keep rows).head?, ∀ first ∈ run.head?,
    Alike territories other first ∧
      ∀ s ∈ first.others (Row.keptRuns keep rows).tail.flatten,
        first.noResponse = true ∧ s.noResponse = true

instance (territories other : String → Except GeoError (List String)) (keep : Row → Bool)
    (rows : List Row) : Decidable (Selects territories other keep rows) :=
  decidable_of_iff
    (((Row.keptRuns keep rows).IsChain fun xs ys => Row.goesOn xs ys = false) ∧
      ∀ run ∈ Row.keptRuns keep rows, ∀ first ∈ run.head?, Alike territories other first)
    ⟨fun h => ⟨h.1, h.2⟩, fun h => ⟨h.apart, h.alike⟩⟩

instance (territories other : String → Except GeoError (List String)) (keep : Row → Bool)
    (rows : List Row) : Decidable (SelectsFirst territories other keep rows) :=
  inferInstanceAs (Decidable (∀ run ∈ (Row.keptRuns keep rows).head?, ∀ first ∈ run.head?,
    Alike territories other first ∧
      ∀ s ∈ first.others (Row.keptRuns keep rows).tail.flatten,
        first.noResponse = true ∧ s.noResponse = true))

section
variable {keep : Row → Bool} {select : RoutedRecordSet → Bool} {rows : List Row}
  {sets : List RoutedRecordSet}

theorem makes_keptRuns
    (hs : ∀ run r, Makes provider territories run r → run.head?.any keep = select r)
    (h : items provider territories rows = sets.map .ok) :
    List.Forall₂ (Makes provider territories) (Row.keptRuns keep rows) (sets.filter select) := by
  refine List.rel_filter (fun run r hmakes => ?_) (items_eq_map_ok.mp h)
  change run.head?.any keep = true ↔ select r = true
  rw [hs run r hmakes]

/-- The rows that are kept make the record sets that are kept exactly when the runs that are kept
stay as they are. Every run makes one record set, so otherwise there would be fewer of them. -/
theorem items_filter_iff (hk : ∀ r s, r.agrees s = true → keep r = keep s)
    (hs : ∀ run r, Makes provider territories run r → run.head?.any keep = select r)
    (h : items provider territories rows = sets.map .ok) :
    items provider other (rows.filter keep) = (sets.filter select).map .ok ↔
      Selects territories other keep rows := by
  have hkept := makes_keptRuns hs h
  rw [items_eq_map_ok]
  constructor
  · intro hother
    have hlength := hother.length_eq.trans hkept.length_eq.symm
    have hchain := Row.isChain_of_length_runs_filter hk hlength
    rw [Row.runs_filter_of_isChain hk hchain] at hother
    exact ⟨hchain, (forall₂_makes_iff hkept).mp hother⟩
  · rintro ⟨hchain, halike⟩
    rw [Row.runs_filter_of_isChain hk hchain]
    exact (forall₂_makes_iff hkept).mpr halike

/-- The first record set that the rows that are kept make. -/
theorem first_items_filter_iff (hk : ∀ r s, r.agrees s = true → keep r = keep s)
    (hs : ∀ run r, Makes provider territories run r → run.head?.any keep = select r)
    (h : items provider territories rows = sets.map .ok) :
    Item.first (items provider other (rows.filter keep)) = .ok (sets.find? select) ↔
      SelectsFirst territories other keep rows := by
  have hkept := makes_keptRuns hs h
  have hrows := Row.flatten_keptRuns hk rows
  rw [Item.first_eq_ok, ← List.head?_filter, SelectsFirst, ← hrows]
  generalize Row.keptRuns keep rows = kept at hkept
  generalize sets.filter select = chosen at hkept
  cases hkept with
  | nil => exact ⟨fun _ _ hrun => (nomatch hrun), fun _ => rfl⟩
  | @cons run r rest chosen hmakes _ =>
    obtain ⟨first, others, rfl, ho, hi⟩ := hmakes
    have hsame : ∀ s ∈ others, s.sameRun first = true :=
      fun s hs => Row.sameRun_of_agrees (ho s hs)
    rw [List.flatten_cons, List.cons_append, items_cons, Row.others_append_of_all hsame,
      List.head?_cons, List.head?_cons, Option.map_some, Option.some.injEq, item_append_iff hi]
    simp only [List.head?_cons, Option.mem_def, Option.some.injEq, forall_eq', List.tail_cons]

end

end Run

end GeoRouting
