import GeoRouting.Proofs.Rdata.Layout
import GeoRouting.Proofs.Rdata.Numeral

/-!
# From values to record data

A record type without a layout is refused as such. Types of joined text take any values there are.
The values of all other types are read field by field, one for each, and the data that they make
says of every field what its value was: its text, or the number that it was written as. So two
lists of values make the same data exactly when they agree in texts and in numbers.
-/

namespace GeoRouting.Rdata

/-! ## Single fields -/

/-- Whether a field reads a text as a value: texts as they stand, numbers by what they are. -/
def Field.Reads : Field → String → Json.Value → Prop
  | .text _, raw, value => value = .text raw
  | .number _, raw, value =>
    ∃ n : Nat, Numeral raw n ∧ n ≤ 4294967295 ∧ value = .number (.integer n)

/-- Whether a field takes a text: every text, or the numerals of 32 bits. -/
def Field.Accepts : Field → String → Prop
  | .text _, _ => True
  | .number _, raw => ∃ n, Numeral raw n ∧ n ≤ 4294967295

/-- Whether two texts mean the same to a field. -/
def Field.Alike : Field → String → String → Prop
  | .text _, raw, other => raw = other
  | .number _, raw, other => ∃ n, Numeral raw n ∧ Numeral other n

theorem Field.read_eq_ok_iff {f : Field} {raw : String} {value : Json.Value} :
    f.read raw = .ok value ↔ f.Reads raw value := by
  cases f with
  | text key => exact ⟨fun h => (Except.ok.inj h).symm, fun h => congrArg Except.ok h.symm⟩
  | number key =>
    rw [read]
    cases hn : number? raw with
    | none =>
      refine iff_of_false (fun h => by cases h) ?_
      rintro ⟨n, hnumeral, hle, -⟩
      rw [number?_eq_some_iff.mpr ⟨hnumeral, hle⟩] at hn
      cases hn
    | some n =>
      obtain ⟨hnumeral, hle⟩ := number?_eq_some_iff.mp hn
      constructor
      · exact fun h => ⟨n, hnumeral, hle, (Except.ok.inj h).symm⟩
      · rintro ⟨m, hm, -, rfl⟩
        rw [hm.unique hnumeral]

theorem Field.Reads.unique {f : Field} {raw : String} {value other : Json.Value}
    (h : f.Reads raw value) (h' : f.Reads raw other) : value = other :=
  Except.ok.inj ((read_eq_ok_iff.mpr h).symm.trans (read_eq_ok_iff.mpr h'))

theorem Field.accepts_iff {f : Field} {raw : String} :
    f.Accepts raw ↔ ∃ value, f.Reads raw value := by
  cases f with
  | text key => exact iff_of_true trivial ⟨_, rfl⟩
  | number key =>
    constructor
    · rintro ⟨n, hn, hle⟩
      exact ⟨_, n, hn, hle, rfl⟩
    · rintro ⟨_, n, hn, hle, -⟩
      exact ⟨n, hn, hle⟩

/-- A field that does not take a text is a number, and it is named with the text. -/
theorem Field.read_of_not_accepts {f : Field} {raw : String} (h : ¬ f.Accepts raw) :
    (∃ key, f = .number key) ∧ f.read raw = .error (.notNumber f.key raw) := by
  cases f with
  | text key => exact absurd trivial h
  | number key =>
    refine ⟨⟨key, rfl⟩, ?_⟩
    rw [read]
    cases hn : number? raw with
    | none => rfl
    | some n => exact absurd ⟨n, number?_eq_some_iff.mp hn⟩ h

theorem Field.alike_of_reads {f : Field} {raw other : String} {value : Json.Value}
    (h : f.Reads raw value) (h' : f.Reads other value) : f.Alike raw other := by
  cases f with
  | text key => exact Json.Value.text.inj (h.symm.trans h')
  | number key =>
    obtain ⟨n, hn, -, rfl⟩ := h
    obtain ⟨m, hm, -, hvalue⟩ := h'
    rw [Json.Value.number.injEq, Json.Number.integer.injEq, Int.natCast_inj] at hvalue
    exact ⟨n, hn, hvalue ▸ hm⟩

theorem Field.Alike.reads {f : Field} {raw other : String} (h : f.Alike raw other)
    {value : Json.Value} (hother : f.Reads other value) : f.Reads raw value := by
  cases f with
  | text key =>
    have heq : raw = other := h
    rwa [heq]
  | number key =>
    obtain ⟨n, hn, hn'⟩ := h
    obtain ⟨m, hm, hle, rfl⟩ := hother
    exact ⟨m, hm.unique hn' ▸ hn, hle, rfl⟩

/-! ## Fields in order -/

theorem readFields_cons (f : Field) (fields : List Field) (raw : String) (raws : List String) :
    readFields (f :: fields) (raw :: raws) =
      (f.read raw).bind fun value => (readFields fields raws).map ((f.key, value) :: ·) := by
  rw [readFields]
  cases f.read raw with
  | error fault => rfl
  | ok value => cases readFields fields raws <;> rfl

/-- Values that all fields take are read one by one. -/
theorem readFields_of_accepts {fields : List Field} {raws : List String}
    (h : List.Forall₂ Field.Accepts fields raws) :
    ∃ es, readFields fields raws = .ok es ∧ es.map Prod.fst = fields.map Field.key ∧
      List.Forall₂ (fun f raw => ∃ value, (f.key, value) ∈ es ∧ f.Reads raw value) fields raws := by
  induction h with
  | nil => exact ⟨[], rfl, rfl, .nil⟩
  | @cons f raw fields raws hfirst _ ih =>
    obtain ⟨es, hes, hkeys, hreads⟩ := ih
    obtain ⟨value, hvalue⟩ := Field.accepts_iff.mp hfirst
    refine ⟨(f.key, value) :: es, ?_, congrArg (f.key :: ·) hkeys, ?_⟩
    · rw [readFields_cons, Field.read_eq_ok_iff.mpr hvalue, hes]
      rfl
    · refine .cons ⟨value, List.mem_cons_self, hvalue⟩ (hreads.imp ?_)
      rintro g other ⟨own, hmem, hown⟩
      exact ⟨own, List.mem_cons_of_mem _ hmem, hown⟩

/-- The first value that its field does not take is the one that is reported. -/
theorem readFields_of_first {before after : List Field} {raws rest : List String} {f : Field}
    {raw : String} (h : List.Forall₂ Field.Accepts before raws) (hraw : ¬ f.Accepts raw) :
    readFields (before ++ f :: after) (raws ++ raw :: rest) = .error (.notNumber f.key raw) := by
  induction h with
  | nil =>
    rw [List.nil_append, List.nil_append, readFields_cons, (Field.read_of_not_accepts hraw).2]
    rfl
  | cons hfirst _ ih =>
    obtain ⟨value, hvalue⟩ := Field.accepts_iff.mp hfirst
    rw [List.cons_append, List.cons_append, readFields_cons, Field.read_eq_ok_iff.mpr hvalue, ih]
    rfl

/-- The first place at which lists of the same length are not related. -/
theorem exists_first_not_accepts {fields : List Field} {raws : List String}
    (hlength : raws.length = fields.length) (h : ¬ List.Forall₂ Field.Accepts fields raws) :
    ∃ before f after taken raw rest, fields = before ++ f :: after ∧
      raws = taken ++ raw :: rest ∧ List.Forall₂ Field.Accepts before taken ∧
      ¬ f.Accepts raw := by
  induction fields generalizing raws with
  | nil => exact absurd (List.length_eq_zero_iff.mp hlength ▸ .nil) h
  | cons f fields ih =>
    cases raws with
    | nil => cases hlength
    | cons raw raws =>
      by_cases hfirst : f.Accepts raw
      · obtain ⟨before, g, after, taken, bad, rest, rfl, rfl, hbefore, hbad⟩ :=
          ih (Nat.succ.inj hlength) fun hrest => h (.cons hfirst hrest)
        exact ⟨f :: before, g, after, raw :: taken, bad, rest, rfl, rfl, .cons hfirst hbefore, hbad⟩
      · exact ⟨[], f, fields, [], raw, raws, rfl, rfl, .nil, hfirst⟩

/-- Whether data says of every field of a layout what its value was, and nothing else. -/
structure Transcribes (fields : List Field) (values : List String) (d : Rdata) : Prop where
  keys : d.keys.Perm (fields.map Field.key)
  values : List.Forall₂ (fun f raw => ∃ value, d.get? f.key = some value ∧ f.Reads raw value)
    fields values

theorem get?_eq_of_reads {fields : List Field} {values : List String} {d e : Rdata}
    (hd : List.Forall₂ (fun f raw => ∃ value, d.get? f.key = some value ∧ f.Reads raw value)
      fields values)
    (he : List.Forall₂ (fun f raw => ∃ value, e.get? f.key = some value ∧ f.Reads raw value)
      fields values) : ∀ f ∈ fields, d.get? f.key = e.get? f.key := by
  induction hd with
  | nil => exact fun f hf => by cases hf
  | cons hfirst _ ih =>
    obtain ⟨value, hvalue, hreads⟩ := hfirst
    rcases he with _ | ⟨⟨value', hvalue', hreads'⟩, hrest⟩
    intro g hg
    rcases List.mem_cons.mp hg with rfl | hg
    · rw [hvalue, hvalue', hreads.unique hreads']
    · exact ih hrest g hg

/-- Data that says the same of every field is the same. -/
theorem Transcribes.unique {fields : List Field} {values : List String} {d e : Rdata}
    (hd : Transcribes fields values d) (he : Transcribes fields values e) : d = e := by
  refine Dict.ext_get? fun k => ?_
  by_cases hk : k ∈ fields.map Field.key
  · obtain ⟨f, hf, rfl⟩ := List.mem_map.mp hk
    exact get?_eq_of_reads hd.values he.values f hf
  · have hnone {g : Rdata} (hg : Transcribes fields values g) : g.get? k = none := by
      refine Option.eq_none_iff_forall_ne_some.mpr fun value hvalue => hk ?_
      exact hg.keys.mem_iff.mp (Dict.mem_keys_iff.mpr ⟨value, hvalue⟩)
    rw [hnone hd, hnone he]

theorem transcribes_of_readFields {fields : List Field} {values : List String}
    {es : List (String × Json.Value)} (hnodup : (fields.map Field.key).Nodup)
    (hkeys : es.map Prod.fst = fields.map Field.key)
    (h : List.Forall₂ (fun f raw => ∃ value, (f.key, value) ∈ es ∧ f.Reads raw value)
      fields values) : Transcribes fields values (.ofList es) := by
  rw [← hkeys] at hnodup
  constructor
  · rw [← hkeys]
    exact Dict.keys_ofList_perm hnodup
  · refine h.imp ?_
    rintro f raw ⟨value, hmem, hreads⟩
    exact ⟨value, Dict.get?_ofList_of_nodup hnodup hmem, hreads⟩

/-- Lists of values make the same data when their values are alike, field by field, and only
then. -/
theorem Transcribes.eq_iff {fields : List Field} {values others : List String} {d e : Rdata}
    (hd : Transcribes fields values d) (he : Transcribes fields others e) :
    d = e ↔ List.Forall₂ (fun f p => f.Alike p.1 p.2) fields (values.zip others) := by
  obtain ⟨hkeys, hvalues⟩ := id he
  constructor
  · rintro rfl
    obtain ⟨-, hown⟩ := hd
    clear he hkeys
    induction hown generalizing others with
    | nil => exact .nil
    | cons hfirst _ ih =>
      obtain ⟨value, hvalue, hreads⟩ := hfirst
      rcases hvalues with _ | ⟨⟨value', hvalue', hreads'⟩, hrest⟩
      rw [hvalue, Option.some.injEq] at hvalue'
      exact .cons (Field.alike_of_reads hreads (hvalue' ▸ hreads')) (ih hrest)
  · intro halike
    refine hd.unique ⟨hkeys, ?_⟩
    have hlength := hd.values.length_eq
    clear hd he hkeys
    induction hvalues generalizing values with
    | nil =>
      rw [List.length_eq_zero_iff.mp hlength.symm]
      exact .nil
    | cons hfirst _ ih =>
      obtain ⟨value, hvalue, hreads⟩ := hfirst
      cases values with
      | nil => cases hlength
      | cons raw values =>
        rcases halike with _ | ⟨hhead, htail⟩
        exact .cons ⟨value, hvalue, hhead.reads hreads⟩ (ih htail (Nat.succ.inj hlength))

/-! ## Whole lists of values -/

/-- The record types whose values are one text, however a backend has split it. -/
def joinedTypes : List String := ["TXT", "SPF"]

section
variable {provider type : String} {fields : List Field} {values : List String}

theorem layout?_of_joined (h : type ∈ joinedTypes) : layout? type = some joined := by
  have hall : ∀ t ∈ joinedTypes, layout? t = some joined := by decide
  exact hall type h

theorem ne_joined_of_layout? (hl : layout? type = some fields) (h : type ∉ joinedTypes) :
    fields ≠ joined := by
  have hall : ∀ p ∈ layouts, p.1 ∉ joinedTypes → p.2 ≠ joined := by decide
  obtain ⟨before, after, hsplit, -⟩ := List.lookup_eq_some_iff.mp hl
  exact hall (type, fields) (hsplit ▸ List.mem_append_right before List.mem_cons_self) h

theorem convert_of_no_layout (h : layout? type = none) :
    convert provider type values = .error (.unsupportedRecordType provider type) := by
  rw [convert, ofValues, h]
  rfl

theorem convert_of_joined (h : type ∈ joinedTypes) (hne : values ≠ []) :
    convert provider type values =
      .ok (.single "txtdata" (.text (" ".intercalate values))) := by
  rw [convert, ofValues, layout?_of_joined h]
  dsimp only
  rw [if_pos ⟨rfl, hne⟩]
  rfl

/-- All other values are read by the fields, if there are as many. -/
theorem convert_of_layout (provider : String) (hl : layout? type = some fields)
    (h : type ∉ joinedTypes ∨ values = []) :
    convert provider type values =
      if values.length ≠ fields.length then
        .error ((Fault.count fields values.length).error provider type)
      else ((readFields fields values).map Dict.ofList).mapError (Fault.error provider type) := by
  have hpositional : ¬ (fields = joined ∧ values ≠ []) := by
    rintro ⟨hjoined, hne⟩
    exact h.elim (fun htype => ne_joined_of_layout? hl htype hjoined) hne
  rw [convert, ofValues, hl]
  dsimp only
  rw [if_neg hpositional]
  split
  · rfl
  · rfl

/-- How values that are read field by field become data or are refused. -/
structure ReadInOrder (provider type : String) (fields : List Field) (values : List String) :
    Prop where
  /-- Each field has a value and takes it, and there are no others. -/
  accepted : (∃ d, convert provider type values = .ok d) ↔
    List.Forall₂ Field.Accepts fields values
  data : ∀ d, convert provider type values = .ok d → Transcribes fields values d
  /-- The number of values is looked at before any of them. -/
  count : values.length ≠ fields.length →
    let keys := ", ".intercalate (fields.map Field.key)
    convert provider type values = .error (.invalidArgument provider "rdata"
      s!"{type} expects {fields.length} values ({keys}), got {values.length}")
  /-- Of values in the right number the first one that is not taken is reported. -/
  number : values.length = fields.length → ¬ List.Forall₂ Field.Accepts fields values →
    ∃ before key after taken raw rest, fields = before ++ .number key :: after ∧
      values = taken ++ raw :: rest ∧ List.Forall₂ Field.Accepts before taken ∧
      ¬ (Field.number key).Accepts raw ∧
      convert provider type values = .error (.invalidArgument provider "rdata"
        s!"{type} {key} is not a number: {raw}")

theorem readInOrder_of_layout (hl : layout? type = some fields)
    (h : type ∉ joinedTypes ∨ values = []) : ReadInOrder provider type fields values := by
  have hconvert := convert_of_layout provider hl h
  have hread (hall : List.Forall₂ Field.Accepts fields values) :
      ∃ d, convert provider type values = .ok d ∧ Transcribes fields values d := by
    obtain ⟨es, hes, hkeys, hreads⟩ := readFields_of_accepts hall
    rw [if_neg (Decidable.not_not.mpr hall.length_eq.symm), hes] at hconvert
    exact ⟨_, hconvert, transcribes_of_readFields (keys_nodup_of_layout? hl) hkeys hreads⟩
  have hcount (hlength : values.length ≠ fields.length) : convert provider type values =
      .error ((Fault.count fields values.length).error provider type) := by
    rw [hconvert, if_pos hlength]
  have hnumber (hlength : values.length = fields.length)
      (hnot : ¬ List.Forall₂ Field.Accepts fields values) :
      ∃ before key after taken raw rest, fields = before ++ .number key :: after ∧
        values = taken ++ raw :: rest ∧ List.Forall₂ Field.Accepts before taken ∧
        ¬ (Field.number key).Accepts raw ∧
        convert provider type values =
          .error ((Fault.notNumber key raw).error provider type) := by
    obtain ⟨before, f, after, taken, raw, rest, hfields, hvalues, hbefore, hraw⟩ :=
      exists_first_not_accepts hlength hnot
    obtain ⟨⟨key, rfl⟩, -⟩ := Field.read_of_not_accepts hraw
    refine ⟨before, key, after, taken, raw, rest, hfields, hvalues, hbefore, hraw, ?_⟩
    rw [hconvert, if_neg (Decidable.not_not.mpr hlength), hfields, hvalues,
      readFields_of_first hbefore hraw]
    rfl
  have haccepted (d : Rdata) (hd : convert provider type values = .ok d) :
      List.Forall₂ Field.Accepts fields values := by
    by_contra hnot
    by_cases hlength : values.length = fields.length
    · obtain ⟨_, _, _, _, _, _, -, -, -, -, herror⟩ := hnumber hlength hnot
      rw [hd] at herror
      cases herror
    · rw [hcount hlength] at hd
      cases hd
  refine ⟨⟨fun ⟨d, hd⟩ => haccepted d hd, fun hall => ?_⟩, fun d hd => ?_, hcount, hnumber⟩
  · obtain ⟨d, hd, -⟩ := hread hall
    exact ⟨d, hd⟩
  · obtain ⟨d', hd', htranscribes⟩ := hread (haccepted d hd)
    rw [hd, Except.ok.injEq] at hd'
    exact hd' ▸ htranscribes

/-- A type with a layout is supported, whatever its values are. -/
theorem convert_ne_unsupported (hl : layout? type = some fields) (p t : String) :
    convert provider type values ≠ .error (.unsupportedRecordType p t) := by
  intro h
  by_cases hjoined : type ∈ joinedTypes ∧ values ≠ []
  · rw [convert_of_joined hjoined.1 hjoined.2] at h
    cases h
  · have hpositional : type ∉ joinedTypes ∨ values = [] := by
      rw [← Decidable.not_not (p := values = [])]
      exact Decidable.not_and_iff_or_not.mp hjoined
    have hread : ReadInOrder provider type fields values := readInOrder_of_layout hl hpositional
    obtain ⟨haccepted, -, hcount, hnumber⟩ := hread
    by_cases hlength : values.length = fields.length
    · by_cases hall : List.Forall₂ Field.Accepts fields values
      · obtain ⟨d, hd⟩ := haccepted.mpr hall
        rw [hd] at h
        cases h
      · obtain ⟨_, _, _, _, _, _, -, -, -, -, herror⟩ := hnumber hlength hall
        rw [herror] at h
        cases h
    · rw [hcount hlength] at h
      cases h

end

/-- Only a type without a layout is not supported. Joined text takes what there is of it. All other
values are read field by field, and refused in a fixed order. Lists of values that are taken then
make the same data exactly when they agree in every text and in the number of every numeral. -/
theorem convert_by_layout (provider type : String) (values : List String) :
    (∀ p t, convert provider type values = .error (.unsupportedRecordType p t) ↔
      layout? type = none ∧ p = provider ∧ t = type) ∧
    (type ∈ joinedTypes → values ≠ [] → convert provider type values =
      .ok (.single "txtdata" (.text (" ".intercalate values)))) ∧
    (∀ fields, layout? type = some fields → type ∉ joinedTypes ∨ values = [] →
      ReadInOrder provider type fields values) ∧
    ∀ fields others d e, layout? type = some fields → type ∉ joinedTypes →
      convert provider type values = .ok d → convert provider type others = .ok e →
      (d = e ↔ List.Forall₂ (fun f p => f.Alike p.1 p.2) fields (values.zip others)) := by
  refine ⟨fun p t => ?_, convert_of_joined, fun fields => readInOrder_of_layout, ?_⟩
  · cases hl : layout? type with
    | none =>
      rw [convert_of_no_layout hl, Except.error.injEq, GeoError.unsupportedRecordType.injEq]
      exact ⟨fun h => ⟨rfl, h.1.symm, h.2.symm⟩, fun h => ⟨h.2.1.symm, h.2.2.symm⟩⟩
    | some fields => exact iff_of_false (convert_ne_unsupported hl p t) fun h => by cases h.1
  · intro fields others d e hl htype hd he
    have hvalues := (readInOrder_of_layout hl (.inl htype)).data d hd
    have hothers := (readInOrder_of_layout hl (.inl htype)).data e he
    exact hvalues.eq_iff hothers

/-- White space, signs and leading zeros make no other data. The first number that is too large is
reported, not the one behind it that has a sign. -/
theorem convert_by_layout_of_services :
    let fields : List Field :=
      [.number "priority", .number "weight", .number "port", .text "target"]
    let written := ["\u00a0+0010 ", "00", "4294967295", "a.z."]
    let plain := ["10", "+0", "04294967295", "a.z."]
    let beyond := ["10", "4294967296", "-1", "a.z."]
    layout? "SRV" = some fields ∧ "SRV" ∉ joinedTypes ∧ "TXT" ∈ joinedTypes ∧
      (∃ d, convert "p" "SRV" written = .ok d ∧ convert "p" "SRV" plain = .ok d) ∧
      List.Forall₂ (fun f p => f.Alike p.1 p.2) fields (written.zip plain) ∧
      convert "p" "SRV" beyond = .error
        (.invalidArgument "p" "rdata" "SRV weight is not a number: 4294967296") ∧
      ¬ List.Forall₂ Field.Accepts fields beyond ∧
      convert "p" "SRV" [] = .error (.invalidArgument "p" "rdata"
        "SRV expects 4 values (priority, weight, port, target), got 0") ∧
      convert "p" "TXT" ["v=spf1", "", "-all"] = .ok (.single "txtdata" (.text "v=spf1  -all")) ∧
      convert "p" "txt" [] = .error (.unsupportedRecordType "p" "txt") := by
  intro fields written plain beyond
  have hl : layout? "SRV" = some fields := by decide
  have htype : "SRV" ∉ joinedTypes := by decide
  have hjoined : "TXT" ∈ joinedTypes := by decide
  obtain ⟨d, hd⟩ : ∃ d, convert "p" "SRV" written = .ok d := ⟨_, rfl⟩
  have hplain : convert "p" "SRV" plain = .ok d := by
    rw [← hd]
    decide +kernel
  have hbeyond : convert "p" "SRV" beyond = .error
      (.invalidArgument "p" "rdata" "SRV weight is not a number: 4294967296") := by
    decide +kernel
  have halike := (convert_by_layout "p" "SRV" written).2.2.2 fields plain d d hl htype hd hplain
  have hread := (convert_by_layout "p" "SRV" beyond).2.2.1 fields hl (.inl htype)
  have hempty := (convert_by_layout "p" "SRV" []).2.2.1 fields hl (.inr rfl)
  refine ⟨hl, htype, hjoined, ⟨d, hd, hplain⟩, halike.mp rfl, hbeyond, fun hall => ?_,
    (hempty.count (by decide)).trans (by decide +kernel), ?_, ?_⟩
  · obtain ⟨e, he⟩ := hread.accepted.mpr hall
    rw [hbeyond] at he
    cases he
  · exact ((convert_by_layout "p" "TXT" _).2.1 hjoined (by simp)).trans (by decide +kernel)
  · exact ((convert_by_layout "p" "txt" []).1 "p" "txt").mpr ⟨by decide, rfl, rfl⟩

end GeoRouting.Rdata
