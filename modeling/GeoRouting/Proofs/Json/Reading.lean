import GeoRouting.Json.Decoder
import GeoRouting.Proofs.Json.Documents

/-!
# Reading what was written

A decoder reads a value back when it reads, from the tree of the value, what the value was written
for. Each way to put decoders together has its counterpart among values: a record is read back from
an object when its fields are, whatever other fields there are, and a record of several forms when
the rest of it is.
-/

namespace GeoRouting.Json.Decoder

open GeoRouting.Json.Tree (ofValue ofItems ofFields)

variable {α β : Type} {d : Decoder α} {depth : Nat} {v : Value} {a : α}

/-- Whether a decoder reads a value back: it fits a depth, and where there is room for that depth
its tree is read. -/
structure Reads (d : Decoder α) (depth : Nat) (v : Value) (a : α) : Prop where
  fits : v.Fits depth
  read : ∀ room, depth ≤ room → d room (ofValue v) = some a

theorem Reads.read_print (h : d.Reads depth v a) (hdepth : depth ≤ depthLimit) :
    d.read v.print = some a := by
  rw [Decoder.read, Tree.parse_print h.fits, Option.bind_some]
  exact h.read depthLimit hdepth

theorem Reads.map (h : d.Reads depth v a) (f : α → β) :
    Reads (fun room t => (d room t).map f) depth v (f a) := by
  refine ⟨h.fits, fun room hroom => ?_⟩
  rw [h.read room hroom]
  rfl

/-! ## Simple values -/

theorem reads_text (s : String) : text.Reads depth (.text s) s := ⟨.text s, fun _ _ => rfl⟩

theorem reads_natural {n limit : Nat} (h : n < limit) (hlimit : limit ≤ UInt64.size) :
    (natural limit).Reads depth (.number (.integer n)) n := by
  constructor
  · exact .number ⟨Int.le_trans (by decide) (Int.natCast_nonneg n), by omega⟩
  · intro room _
    rw [ofValue, natural, if_pos (by omega)]
    rfl

theorem reads_word16 (w : UInt16) : word16.Reads depth (.number (.integer w.toNat)) w := by
  have h := Reads.map (@reads_natural depth _ _ w.toNat_lt (by decide)) UInt16.ofNat
  rwa [UInt16.ofNat_toNat] at h

theorem reads_word32 (w : UInt32) : word32.Reads depth (.number (.integer w.toNat)) w := by
  have h := Reads.map (@reads_natural depth _ _ w.toNat_lt (by decide)) UInt32.ofNat
  rwa [UInt32.ofNat_toNat] at h

theorem reads_value (h : v.Fits depth) (hv : v.Ordered) : value.Reads depth v v :=
  ⟨h, fun _ hroom => Tree.value?_ofValue h hv hroom⟩

/-- A name out of a list is read as what it stands for. -/
theorem reads_choice {names : List (String × α)} {s : String} (h : names.lookup s = some a) :
    (choice names).Reads depth (.text s) a := by
  refine ⟨.text s, fun room _ => ?_⟩
  cases room <;> exact h

/-! ## Containers -/

theorem reads_null : (optional d).Reads depth .null none := ⟨.null, fun _ _ => rfl⟩

/-- What is there is read as present, unless it looks absent. -/
theorem Reads.optional (h : d.Reads depth v a) (hv : v ≠ .null) :
    (optional d).Reads depth v (some a) := by
  refine ⟨h.fits, fun room hroom => ?_⟩
  have hread := h.read room hroom
  cases v with
  | null => exact absurd rfl hv
  | bool b => exact congrArg (Option.map some) hread
  | number n => exact congrArg (Option.map some) hread
  | text s => exact congrArg (Option.map some) hread
  | array items => exact congrArg (Option.map some) hread
  | object fields => exact congrArg (Option.map some) hread

theorem mapM_ofItems {encode : α → Value} {xs : List α} {read : Tree → Option α}
    (h : ∀ x ∈ xs, read (ofValue (encode x)) = some x) :
    (ofItems (xs.map encode)).mapM read = some xs := by
  induction xs with
  | nil => rfl
  | cons x xs ih =>
    rw [List.map_cons, ofItems, List.mapM_cons, h x List.mem_cons_self,
      ih fun y hy => h y (List.mem_cons_of_mem x hy)]
    rfl

theorem mapM_ofFields {encode : α → Value} {entries : List (String × α)}
    {read : Option String × Tree → Option (String × α)}
    (h : ∀ e ∈ entries, read (some e.1, ofValue (encode e.2)) = some e) :
    (ofFields (entries.map fun e => (e.1, encode e.2))).mapM read = some entries := by
  induction entries with
  | nil => rfl
  | cons e entries ih =>
    rw [List.map_cons, ofFields, List.mapM_cons, h e List.mem_cons_self,
      ih fun f hf => h f (List.mem_cons_of_mem e hf)]
    rfl

theorem Reads.list {encode : α → Value} {xs : List α}
    (h : ∀ x ∈ xs, d.Reads depth (encode x) x) :
    (list d).Reads (depth + 1) (.array (xs.map encode)) xs := by
  constructor
  · refine .array fun v hv => ?_
    obtain ⟨x, hx, rfl⟩ := List.mem_map.mp hv
    exact (h x hx).fits
  · intro room hroom
    obtain ⟨room, rfl⟩ : ∃ k, room = k + 1 := ⟨room - 1, by omega⟩
    exact mapM_ofItems fun x hx => (h x hx).read room (by omega)

theorem Reads.dict {encode : α → Value} {entries : Dict α}
    (h : ∀ e ∈ entries.entries, d.Reads depth (encode e.2) e.2) :
    (dict d).Reads (depth + 1) (.object (entries.entries.map fun e => (e.1, encode e.2)))
      entries := by
  constructor
  · refine .object fun f hf => ?_
    obtain ⟨e, he, rfl⟩ := List.mem_map.mp hf
    exact (h e he).fits
  · intro room hroom
    obtain ⟨room, rfl⟩ : ∃ k, room = k + 1 := ⟨room - 1, by omega⟩
    let entry (f : Option String × Tree) : Option (String × α) := do
      some (← f.1, ← d room f.2)
    have hentries : (ofFields (entries.entries.map fun e => (e.1, encode e.2))).mapM entry =
        some entries.entries :=
      mapM_ofFields fun e he => by simp [entry, (h e he).read room (by omega)]
    rw [ofValue, Decoder.dict, hentries, Option.map_some, Dict.ofList_entries]

theorem Reads.sound (h : d.Reads depth v a) : d.sound.Reads depth v a := by
  refine ⟨h.fits, fun room hroom => ?_⟩
  obtain ⟨w, hw⟩ := Tree.exists_value? h.fits hroom
  rw [Decoder.sound, hw, Option.bind_some]
  exact h.read room hroom

/-! ## Records -/

theorem filter_ofFields {fields : List (String × Value)} (h : (fields.map Prod.fst).Nodup)
    (name : String) : (ofFields fields).filter (fun f => f.1 == some name) =
      (fields.lookup name).toList.map fun v => (some name, ofValue v) := by
  induction fields with
  | nil => rfl
  | cons f fields ih =>
    obtain ⟨k, v⟩ := f
    obtain ⟨hk, hfields⟩ := List.nodup_cons.mp h
    rw [ofFields, List.filter_cons, ih hfields, List.lookup_cons]
    by_cases hname : k = name
    · subst hname
      have habsent : fields.lookup k = none := by
        refine List.lookup_eq_none_iff.mpr fun f hf => bne_iff_ne.mpr fun heq => hk ?_
        exact List.mem_map.mpr ⟨f, hf, heq.symm⟩
      simp [habsent]
    · have hother : (name == k) = false := beq_false_of_ne (Ne.symm hname)
      simp [hname, hother]

theorem field_ofFields {fields : List (String × Value)} (h : (fields.map Prod.fst).Nodup)
    (name : String) : field name (ofFields fields) = some ((fields.lookup name).map ofValue) := by
  rw [field, filter_ofFields h]
  cases fields.lookup name <;> rfl

theorem slots_ofFields {fields : List (String × Value)} (h : (fields.map Prod.fst).Nodup)
    (names : List String) (needed : Nat) {room : Nat} (hroom : 0 < room) :
    slots names needed room (ofValue (.object fields)) =
      some (names.map fun name => (fields.lookup name).map ofValue) := by
  obtain ⟨room, rfl⟩ : ∃ k, room = k + 1 := ⟨room - 1, by omega⟩
  have hall : (ofFields fields).all (fun f => f.1.isSome) = true := by
    simp [Tree.ofFields_eq_map]
  rw [ofValue, slots, fieldsOf, hall, if_pos rfl]
  simp only [field_ofFields h]
  exact List.mapM_pure

/-- A record is read back from an object when its fields are. -/
theorem Reads.record {names : List String} {needed : Nat} {fields : List (String × Value)}
    {make : Nat → List (Option Tree) → Option α} (h : (fields.map Prod.fst).Nodup)
    (hfits : ∀ f ∈ fields, f.2.Fits depth)
    (hmake : ∀ room, depth ≤ room - 1 →
      make room (names.map fun name => (fields.lookup name).map ofValue) = some a) :
    Reads (fun room t => slots names needed room t >>= make room) (depth + 1) (.object fields)
      a := by
  refine ⟨.object hfits, fun room hroom => ?_⟩
  rw [slots_ofFields h names needed (by omega)]
  exact hmake room (by omega)

@[simp]
theorem needed_text (room : Nat) (s : String) :
    needed text room (some (ofValue (.text s))) = some s := rfl

@[simp]
theorem needed_bool (room : Nat) (b : Bool) :
    needed bool room (some (ofValue (.bool b))) = some b := rfl

@[simp]
theorem orElse_bool (absent : Bool) (room : Nat) (b : Bool) :
    orElse bool absent room (some (ofValue (.bool b))) = some b := rfl

@[simp]
theorem maybe_absent (d : Decoder α) (room : Nat) : maybe d room none = some none := rfl

theorem Reads.needed (h : d.Reads depth v a) {room : Nat} (hroom : depth ≤ room - 1) :
    needed d room (some (ofValue v)) = some a :=
  h.read _ hroom

theorem Reads.maybe {a : Option α} (h : (Decoder.optional d).Reads depth v a) {room : Nat}
    (hroom : depth ≤ room - 1) : maybe d room (some (ofValue v)) = some a :=
  h.read _ hroom

/-- A record of several forms is read back from an object that has its form first. -/
theorem Reads.tagged {tag name : String} {form : String → Option (Decoder α)}
    {fields : List (String × Value)} (h : d.Reads (depth + 1) (.object fields) a)
    (hform : form name = some d) (htag : ∀ f ∈ fields, f.1 ≠ tag) :
    (tagged tag form).Reads (depth + 1) (.object ((tag, .text name) :: fields)) a := by
  have hfields : ∀ f ∈ ofFields fields, f.1 ≠ some tag := by
    rw [Tree.ofFields_eq_map]
    intro f hf
    obtain ⟨g, hg, rfl⟩ := List.mem_map.mp hf
    exact fun heq => htag g hg (Option.some.inj heq)
  have htagged : (ofFields fields).filter (fun f => f.1 == some tag) = [] :=
    List.filter_eq_nil_iff.mpr fun f hf => by simpa using hfields f hf
  have hrest : (ofFields fields).filter (fun f => f.1 != some tag) = ofFields fields :=
    List.filter_eq_self.mpr fun f hf => by simpa using hfields f hf
  refine Reads.sound ⟨?_, fun room hroom => ?_⟩
  · cases h.fits with
    | object hfit =>
      exact .object (List.forall_mem_cons.mpr ⟨.text name, hfit⟩)
  · have hread := h.read room hroom
    simpa [ofValue, ofFields, htagged, hrest, hform] using hread

end GeoRouting.Json.Decoder
