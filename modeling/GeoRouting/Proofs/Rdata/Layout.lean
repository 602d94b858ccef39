import GeoRouting.Dict.Lookup
import GeoRouting.Rdata
import Mathlib.Data.List.Forall2
import Mathlib.Data.List.Perm.Basic

/-!
# Data in the layout of its type

Values that are accepted as data of a record type become data with the fields of the type and no
others: texts are texts, and numbers are numbers of 32 bits.
-/

namespace GeoRouting

namespace Dict
variable {α : Type}

/-- Of entries with different keys none is lost. -/
theorem get?_ofList_of_nodup {es : List (String × α)} (h : (es.map Prod.fst).Nodup)
    {e : String × α} (he : e ∈ es) : (ofList es).get? e.1 = some e.2 := by
  have hpair : es.Pairwise fun a b => a.1 ≠ b.1 := List.pairwise_map.mp h
  have hfound : es.reverse.find? (·.1 == e.1) = some e := by
    rw [List.find?_eq_some_iff_append]
    obtain ⟨before, after, rfl⟩ := List.append_of_mem he
    refine ⟨beq_self_eq_true _, after.reverse, before.reverse, by simp, ?_⟩
    intro x hx
    have hne := (List.pairwise_cons.mp (List.pairwise_append.mp hpair).2.1).1 x
      (List.mem_reverse.mp hx)
    simpa using hne.symm
  rw [get?_ofList, hfound]
  rfl

theorem keys_ofList_perm {es : List (String × α)} (h : (es.map Prod.fst).Nodup) :
    (ofList es).keys.Perm (es.map Prod.fst) := by
  rw [List.perm_ext_iff_of_nodup (keys_nodup _) h]
  exact fun _ => mem_keys_ofList

end Dict

namespace Rdata

/-- Whether a value is one of a field: a text, or a number of 32 bits. -/
def Field.Holds : Field → Json.Value → Prop
  | .text _, value => ∃ s, value = .text s
  | .number _, value => ∃ n : Nat, n < UInt32.size ∧ value = .number (.integer n)

/-- Whether data has the fields of a layout and no others. -/
structure Fits (fields : List Field) (d : Rdata) : Prop where
  keys : d.keys.Perm (fields.map Field.key)
  values : ∀ f ∈ fields, ∃ value, d.get? f.key = some value ∧ f.Holds value

theorem number?_lt {raw : String} {n : Nat} (h : number? raw = some n) : n < UInt32.size := by
  unfold number? at h
  extract_lets digits at h
  split at h
  · split at h
    · rename_i hn
      rw [← Option.some.inj h]
      exact hn
    · cases h
  · cases h

theorem Field.holds_of_read {f : Field} {raw : String} {value : Json.Value}
    (h : f.read raw = .ok value) : f.Holds value := by
  cases f with
  | text key => exact ⟨raw, (Except.ok.inj h).symm⟩
  | number key =>
    rw [read] at h
    split at h
    · rename_i n hn
      exact ⟨n, number?_lt hn, (Except.ok.inj h).symm⟩
    · cases h

/-- Values that are read are one for each field, in order. -/
theorem forall₂_readFields {fields : List Field} {raws : List String}
    {es : List (String × Json.Value)} (hlength : raws.length = fields.length)
    (h : readFields fields raws = .ok es) :
    List.Forall₂ (fun f e => e.1 = f.key ∧ f.Holds e.2) fields es := by
  induction fields generalizing raws es with
  | nil =>
    cases Except.ok.inj h
    exact .nil
  | cons f fields ih =>
    cases raws with
    | nil => cases hlength
    | cons raw raws =>
      rw [readFields] at h
      cases hv : f.read raw with
      | error e =>
        rw [hv] at h
        cases h
      | ok value =>
        cases hr : readFields fields raws with
        | error e =>
          rw [hv, hr] at h
          cases h
        | ok rest =>
          rw [hv, hr] at h
          cases Except.ok.inj h
          exact .cons ⟨rfl, f.holds_of_read hv⟩ (ih (Nat.succ.inj hlength) hr)

theorem fits_ofList {fields : List Field} (hkeys : (fields.map Field.key).Nodup)
    {es : List (String × Json.Value)}
    (h : List.Forall₂ (fun f e => e.1 = f.key ∧ f.Holds e.2) fields es) :
    Fits fields (.ofList es) := by
  have hnames : es.map Prod.fst = fields.map Field.key := by
    induction h with
    | nil => rfl
    | cons hfirst _ ih => rw [List.map_cons, List.map_cons, hfirst.1, ih (List.nodup_cons.mp hkeys).2]
  constructor
  · rw [← hnames]
    exact Dict.keys_ofList_perm (hnames ▸ hkeys)
  · intro f hf
    obtain ⟨e, he, hkey, hholds⟩ : ∃ e ∈ es, e.1 = f.key ∧ f.Holds e.2 := by
      clear hkeys hnames
      induction h with
      | nil => cases hf
      | cons hfirst _ ih =>
        rcases List.mem_cons.mp hf with rfl | hf
        · exact ⟨_, List.mem_cons_self, hfirst⟩
        · obtain ⟨e, he, hfe⟩ := ih hf
          exact ⟨e, List.mem_cons_of_mem _ he, hfe⟩
    refine ⟨e.2, ?_, hholds⟩
    rw [← hkey]
    exact Dict.get?_ofList_of_nodup (hnames ▸ hkeys) he

/-- No layout has two fields of one name. -/
theorem keys_nodup_of_layout? {type : String} {fields : List Field}
    (h : layout? type = some fields) : (fields.map Field.key).Nodup := by
  have hall : ∀ p ∈ layouts, (p.2.map Field.key).Nodup := by decide
  obtain ⟨before, after, hsplit, -⟩ := List.lookup_eq_some_iff.mp h
  exact hall (type, fields) (hsplit ▸ List.mem_append_right before List.mem_cons_self)

/-- Data that values were converted to fits the layout of its type. -/
theorem fits_of_convert {provider type : String} {values : List String} {d : Rdata}
    (h : convert provider type values = .ok d) :
    ∃ fields, layout? type = some fields ∧ Fits fields d := by
  have hd : ofValues type values = .ok d := by
    rw [convert] at h
    cases hv : ofValues type values with
    | error fault =>
      rw [hv] at h
      cases h
    | ok d' =>
      rw [hv] at h
      exact congrArg Except.ok (Except.ok.inj h)
  unfold ofValues at hd
  cases hl : layout? type with
  | none =>
    rw [hl] at hd
    cases hd
  | some fields =>
    refine ⟨fields, rfl, ?_⟩
    rw [hl] at hd
    dsimp only at hd
    split at hd
    · rename_i hjoined
      rw [← Except.ok.inj hd, hjoined.1]
      change Fits joined (.ofList [("txtdata", _)])
      exact fits_ofList (by decide) (.cons ⟨rfl, _, rfl⟩ .nil)
    · split at hd
      · cases hd
      · rename_i hlength
        cases hr : readFields fields values with
        | error fault =>
          rw [hr] at hd
          cases hd
        | ok es =>
          rw [hr] at hd
          rw [← Except.ok.inj hd]
          exact fits_ofList (keys_nodup_of_layout? hl)
            (forall₂_readFields (Decidable.not_not.mp hlength) hr)

end Rdata

end GeoRouting
