import GeoRouting.Provider
import GeoRouting.Pool.Json
import GeoRouting.Proofs.Json.Reading
import GeoRouting.Row.Json
import GeoRouting.Service.Basic
import GeoRouting.Territory.RegionTable

/-!
# Round trips

Whatever the model writes as JSON is read back as it was, for all texts and with every optional
field present or absent. Free values stand in record data alone; they have to leave room for the
three levels of a record set around them, and their numbers have to be integers of a machine word.
-/

namespace GeoRouting

open Json Decoder
open GeoRouting.Json.Tree (ofValue ofItems ofFields)

variable {depth : Nat}

theorem reads_texts (xs : List String) :
    (Decoder.list .text).Reads (depth + 1) (.texts xs) xs :=
  .list fun x _ => reads_text x

theorem reads_encodeTtlOrNull (ttl : Option UInt32) :
    (optional word32).Reads depth (encodeTtlOrNull ttl) ttl := by
  cases ttl with
  | none => exact reads_null
  | some t => exact (reads_word32 t).optional nofun

/-! ## Rows and pools -/

theorem GroupRef.reads (g : GroupRef) : decode.Reads (depth + 1) g.encode g := by
  refine .record (by simp) (by simp) fun room hroom => ?_
  simp [List.lookup_cons]

theorem GroupRef.reads_encodeOrNull (g : Option GroupRef) :
    (optional decode).Reads (depth + 1) (encodeOrNull g) g := by
  cases g with
  | none => exact reads_null
  | some g => exact g.reads.optional nofun

theorem Row.reads (r : Row) : decode.Reads (depth + 2) r.encode r := by
  have httl := @reads_encodeTtlOrNull (depth + 1) r.ttl
  have hvalues := @reads_texts depth r.values
  have hgeo := @GroupRef.reads_encodeOrNull depth r.geoGroup
  have hplain := @GroupRef.reads_encodeOrNull depth r.plainGroup
  refine .record (by simp) (by simp [httl.fits, hvalues.fits, hgeo.fits, hplain.fits])
    fun room hroom => ?_
  simp [fieldNames, List.lookup_cons, httl.maybe hroom, hvalues.needed hroom, hgeo.maybe hroom,
    hplain.maybe hroom]

theorem Bucket.reads (b : Bucket) : decode.Reads depth b.encode b :=
  reads_choice (by cases b <;> rfl)

theorem PoolKind.reads (k : PoolKind) : decode.Reads depth k.encode k :=
  reads_choice (by cases k <;> rfl)

theorem Pool.reads (p : Pool) : decode.Reads (depth + 1) p.encode p := by
  have hkind := @PoolKind.reads depth p.kind
  refine .record (by simp) (by simp [hkind.fits]) fun room hroom => ?_
  simp [List.lookup_cons, hkind.needed hroom]

theorem GroupCoordinates.reads (c : GroupCoordinates) :
    decode.Reads (depth + 1) c.encode c := by
  have htype := @reads_word16 depth c.type
  refine .record (by simp) (by simp [htype.fits]) fun room hroom => ?_
  simp [List.lookup_cons, htype.needed hroom]

/-! ## Services -/

theorem Node.reads (n : Node) : decode.Reads (depth + 1) n.encode n := by
  refine .record (by simp) (by simp) fun room hroom => ?_
  simp [List.lookup_cons]

theorem ServiceRecords.reads (r : ServiceRecords) :
    decode.Reads (depth + 3) r.encode r := by
  have httl := @reads_encodeTtlOrNull (depth + 2) r.ttl
  have hvalues : (list (list .text)).Reads (depth + 2) (.array (r.values.map .texts)) r.values :=
    .list fun xs _ => reads_texts xs
  refine .record (by simp) (by simp [httl.fits, hvalues.fits]) fun room hroom => ?_
  simp [List.lookup_cons, httl.maybe hroom, hvalues.needed hroom]

theorem RegionGroup.reads (g : RegionGroup) : decode.Reads (depth + 5) g.encode g := by
  have hcountries := @reads_texts (depth + 3) g.countries
  have hrecords : (list ServiceRecords.decode).Reads (depth + 4)
      (.array (g.records.map ServiceRecords.encode)) g.records := .list fun r _ => r.reads
  refine .record (by simp) (by simp [hcountries.fits, hrecords.fits]) fun room hroom => ?_
  simp [List.lookup_cons, hcountries.needed hroom, hrecords.needed hroom]

theorem GeoService.reads (s : GeoService) : decode.Reads (depth + 7) s.encode s := by
  have hnodes : (list Node.decode).Reads (depth + 6) (.array (s.nodes.map Node.encode)) s.nodes :=
    .list fun n _ => n.reads
  have hgroups : (list RegionGroup.decode).Reads (depth + 6)
      (.array (s.groups.map RegionGroup.encode)) s.groups := .list fun g _ => g.reads
  refine .record (by simp) (by simp [hnodes.fits, hgroups.fits]) fun room hroom => ?_
  simp [List.lookup_cons, hnodes.needed hroom, hgroups.needed hroom]

theorem RegionTable.reads (t : RegionTable) : decode.Reads (depth + 2) t.encode t :=
  Reads.map (.dict fun e _ => reads_texts e.2) RegionTable.mk

/-! ## Credentials and providers -/

theorem CredentialForm.reads (f : CredentialForm) : decode.Reads (depth + 2) f.encode f := by
  have hparameters := @reads_texts depth f.parameters
  refine .record (by simp) (by simp [hparameters.fits]) fun room hroom => ?_
  simp [List.lookup_cons, hparameters.needed hroom]

theorem CredentialForm.reads_list (fs : List CredentialForm) :
    (list decode).Reads (depth + 3) (.array (fs.map encode)) fs :=
  .list fun f _ => f.reads

theorem CredentialCatalog.reads (c : CredentialCatalog) :
    decode.Reads (depth + 4) c.encode c := by
  have hforms := @CredentialForm.reads_list depth c.forms
  refine .record (by simp) (by simp [hforms.fits]) fun room hroom => ?_
  simp [List.lookup_cons, hforms.needed hroom]

/-- Credentials are read by the kind that their object names. -/
theorem Credentials.reads_kind {kind : String} {fields : List (String × Value)} {c : Credentials}
    (h : ((("type", Value.text kind) :: fields).map Prod.fst).Nodup)
    (hfits : ∀ f ∈ fields, f.2.Fits depth)
    (hkind : ∀ room, depth ≤ room - 1 →
      (decodeValues room ((fields.lookup "values").map ofValue)).lookup kind = some (some c)) :
    decode.Reads (depth + 1) (.object (("type", .text kind) :: fields)) c := by
  refine ⟨.object (List.forall_mem_cons.mpr ⟨.text kind, hfits⟩), fun room hroom => ?_⟩
  have hdepth : depth ≤ room - 1 := by omega
  have htype := (reads_choice (hkind room hdepth)).needed hdepth
  have hslots : ["type", "values"].map (fun name =>
      ((("type", Value.text kind) :: fields).lookup name).map ofValue) =
      [some (ofValue (.text kind)), (fields.lookup "values").map ofValue] := by
    simp [List.lookup_cons]
  rw [decode, slots_ofFields h _ _ (by omega), hslots]
  exact congrArg (· >>= id) htype

theorem Credentials.reads (c : Credentials) : decode.Reads (depth + 2) c.encode c := by
  cases c with
  | anonymous => exact reads_kind (by simp) nofun fun _ _ => rfl
  | list values =>
    have hvalues := @reads_texts depth values
    refine reads_kind (by simp) (by simpa using hvalues.fits) fun room hroom => ?_
    simp [decodeValues, List.lookup_cons, hvalues.needed hroom]
  | map values =>
    have hvalues : (dict .text).Reads (depth + 1)
        (.object (values.entries.map fun e => (e.1, .text e.2))) values :=
      .dict fun e _ => reads_text e.2
    refine reads_kind (by simp) (by simpa using hvalues.fits) fun room hroom => ?_
    simp [decodeValues, List.lookup_cons, hvalues.needed hroom]

theorem ProviderKind.reads (k : ProviderKind) : decode.Reads depth k.encode k :=
  reads_choice (by cases k <;> rfl)

theorem ProviderFeatures.reads (f : ProviderFeatures) : decode.Reads (depth + 1) f.encode f := by
  refine .record (by simp) (by simp) fun room hroom => ?_
  simp [List.lookup_cons]

theorem ProviderInfo.reads (p : ProviderInfo) : decode.Reads (depth + 4) p.encode p := by
  have hkind := @ProviderKind.reads (depth + 3) p.kind
  have hforms := @CredentialForm.reads_list depth p.forms
  have hfeatures := @ProviderFeatures.reads (depth + 2) p.features
  refine .record (by simp) (by simp [hkind.fits, hforms.fits, hfeatures.fits]) fun room hroom => ?_
  simp [List.lookup_cons, hkind.needed hroom, hforms.needed hroom, hfeatures.needed hroom]

/-! ## Errors -/

theorem GeoError.reads_decodePair {name p s : String} {make : String → String → GeoError}
    (h : name ≠ "provider") : (decodePair name make).Reads (depth + 1)
      (.object [("provider", .text p), (name, .text s)]) (make p s) := by
  have hother : (name == "provider") = false := beq_false_of_ne h
  refine .record (by simpa using h.symm) (by simp) fun room hroom => ?_
  simp [List.lookup_cons, hother]

theorem GeoError.reads_decodeArgument (p param detail : String) :
    decodeArgument.Reads (depth + 1)
      (.object [("provider", .text p), ("param", .text param), ("detail", .text detail)])
      (.invalidArgument p param detail) := by
  refine .record (by simp) (by simp) fun room hroom => ?_
  simp [List.lookup_cons]

theorem GeoError.reads (e : GeoError) : decode.Reads (depth + 1) e.encode e := by
  cases e with
  | zoneNotFound p zone => exact .tagged (reads_decodePair (by simp)) rfl (by simp)
  | invalidArgument p param detail => exact .tagged (reads_decodeArgument ..) rfl (by simp)
  | contractViolation p detail => exact .tagged (reads_decodePair (by simp)) rfl (by simp)
  | unsupportedRecordType p type => exact .tagged (reads_decodePair (by simp)) rfl (by simp)
  | backend p detail => exact .tagged (reads_decodePair (by simp)) rfl (by simp)

/-! ## Record sets -/

theorem GeoRoute.reads (g : GeoRoute) : decode.Reads (depth + 2) g.encode g := by
  have hterritories := @reads_texts depth g.territories
  refine .record (by simp [encodeFields]) (by simp [encodeFields, hterritories.fits])
    fun room hroom => ?_
  simp [encodeFields, List.lookup_cons, hterritories.needed hroom]

theorem Route.reads (r : Route) : decode.Reads (depth + 2) r.encode r := by
  cases r with
  | geo route =>
    exact .tagged (route.reads.map Route.geo) rfl (by simp [GeoRoute.encodeFields])

/-- Whether the record data can be written and read: the values in it nest at most `depth` arrays
and objects, with the fields of every object in order, and their numbers are integers of a machine
word. -/
def RecordSet.Fits (depth : Nat) (r : RecordSet) : Prop :=
  ∀ data ∈ r.rdata, ∀ e ∈ data.entries, e.2.Fits depth ∧ e.2.Ordered

theorem Rdata.reads {r : Rdata} (h : ∀ e ∈ r.entries, e.2.Fits depth ∧ e.2.Ordered) :
    decode.Reads (depth + 1) r.encode r := by
  have hentries : (dict value).Reads (depth + 1)
      (.object (r.entries.map fun e => (e.1, id e.2))) r :=
    .dict fun e he => reads_value (h e he).1 (h e he).2
  simpa [encode, decode] using hentries

/-- A record set is read from its fields, whatever stands beside them. -/
theorem RecordSet.reads_fields {r : RecordSet} (h : r.Fits depth) {beside : List (String × Value)}
    (hnames : ((r.encodeFields ++ beside).map Prod.fst).Nodup)
    (habsent : beside.lookup "ttl" = none) (hbeside : ∀ f ∈ beside, f.2.Fits (depth + 2)) :
    decode.Reads (depth + 3) (.object (r.encodeFields ++ beside)) r := by
  obtain ⟨name, type, ttl, rdata⟩ := r
  have hrdata : (list Rdata.decode).Reads (depth + 2) (.array (rdata.map Rdata.encode)) rdata :=
    .list fun data hdata => Rdata.reads (h data hdata)
  cases ttl with
  | none =>
    refine .record hnames ?_ fun room hroom => ?_
    · simpa [encodeFields, encodeTtl, hrdata.fits] using hbeside
    · simp [encodeFields, encodeTtl, List.lookup_cons, habsent, hrdata.needed hroom]
  | some t =>
    have httl := (@reads_word32 (depth + 2) t).optional nofun
    refine .record hnames ?_ fun room hroom => ?_
    · simpa [encodeFields, encodeTtl, httl.fits, hrdata.fits] using hbeside
    · simp [encodeFields, encodeTtl, List.lookup_cons, httl.maybe hroom, hrdata.needed hroom]

theorem RecordSet.reads {r : RecordSet} (h : r.Fits depth) :
    decode.Reads (depth + 3) r.encode r := by
  have hnames : (r.encodeFields.map Prod.fst).Nodup := by
    cases hr : r.ttl <;> simp [encodeFields, encodeTtl, hr]
  simpa [encode] using @reads_fields depth r h [] (by simpa using hnames) rfl nofun

theorem RoutedRecordSet.reads {r : RoutedRecordSet} (h : r.records.Fits (depth + 1)) :
    decode.Reads (depth + 4) r.encode r := by
  have hroutes : (dict Route.decode).Reads (depth + 3) (encodeRoutes r.routes) r.routes :=
    .dict fun e _ => e.2.reads
  have hnames : ((r.records.encodeFields ++ [("config", encodeRoutes r.routes)]).map
      Prod.fst).Nodup := by
    cases httl : r.records.ttl <;> simp [RecordSet.encodeFields, encodeTtl, httl]
  have hrecords := RecordSet.reads_fields h hnames rfl (by simpa using hroutes.fits)
  refine Reads.sound ⟨hrecords.fits, fun room hroom => ?_⟩
  have hconfig : (r.records.encodeFields ++ [("config", encodeRoutes r.routes)]).lookup "config" =
      some (encodeRoutes r.routes) := by
    cases httl : r.records.ttl <;> simp [RecordSet.encodeFields, encodeTtl, httl, List.lookup_cons]
  have hread := hrecords.read room hroom
  have hneeded := hroutes.needed (show depth + 3 ≤ room - 1 by omega)
  rw [ofValue] at hread
  simp [encode, ofValue, field_ofFields hnames, hconfig, hread, hneeded]

/-! ## The whole model -/

/-- Whether the text of a value reads as that value, whatever the value. -/
def ReadsBack {α : Type} (encode : α → Value) (decode : Decoder α) : Prop :=
  ∀ a, decode.read (encode a).print = some a

/-- What is read back within seven levels, the depth of a service, is read back from its text. -/
theorem ReadsBack.of_reads {α : Type} {encode : α → Value} {decode : Decoder α}
    (h : ∀ a, decode.Reads 7 (encode a) a) : ReadsBack encode decode :=
  fun a => (h a).read_print (by decide)

/-- Everything that the model writes as text is read back as it was. Only record data restricts what
is written, and it leaves three levels to the record set and the list that it stands in. -/
theorem read_print_encode :
    (∀ r : RecordSet, r.Fits (depthLimit - 3) → RecordSet.decode.read r.encode.print = some r) ∧
    (∀ r : RoutedRecordSet, r.records.Fits (depthLimit - 3) →
      RoutedRecordSet.decode.read r.encode.print = some r) ∧
    ReadsBack GeoRoute.encode GeoRoute.decode ∧ ReadsBack Route.encode Route.decode ∧
    ReadsBack GeoError.encode GeoError.decode ∧
    ReadsBack Credentials.encode Credentials.decode ∧
    ReadsBack CredentialForm.encode CredentialForm.decode ∧
    ReadsBack CredentialCatalog.encode CredentialCatalog.decode ∧
    ReadsBack GroupRef.encode GroupRef.decode ∧ ReadsBack Row.encode Row.decode ∧
    ReadsBack Pool.encode Pool.decode ∧ ReadsBack PoolKind.encode PoolKind.decode ∧
    ReadsBack Bucket.encode Bucket.decode ∧
    ReadsBack GroupCoordinates.encode GroupCoordinates.decode ∧
    ReadsBack Node.encode Node.decode ∧ ReadsBack ServiceRecords.encode ServiceRecords.decode ∧
    ReadsBack RegionGroup.encode RegionGroup.decode ∧
    ReadsBack GeoService.encode GeoService.decode ∧
    ReadsBack RegionTable.encode RegionTable.decode ∧
    ReadsBack ProviderKind.encode ProviderKind.decode ∧
    ReadsBack ProviderFeatures.encode ProviderFeatures.decode ∧
    ReadsBack ProviderInfo.encode ProviderInfo.decode := by
  refine ⟨fun r h => (RecordSet.reads h).read_print (by decide),
    fun r h => (@RoutedRecordSet.reads (depthLimit - 4) r h).read_print (by decide),
    ?_, ?_, ?_, ?_, ?_, ?_, ?_, ?_, ?_, ?_, ?_, ?_, ?_, ?_, ?_, ?_, ?_, ?_, ?_, ?_⟩
  · exact .of_reads GeoRoute.reads
  · exact .of_reads Route.reads
  · exact .of_reads GeoError.reads
  · exact .of_reads Credentials.reads
  · exact .of_reads CredentialForm.reads
  · exact .of_reads CredentialCatalog.reads
  · exact .of_reads GroupRef.reads
  · exact .of_reads Row.reads
  · exact .of_reads Pool.reads
  · exact .of_reads PoolKind.reads
  · exact .of_reads Bucket.reads
  · exact .of_reads GroupCoordinates.reads
  · exact .of_reads Node.reads
  · exact .of_reads ServiceRecords.reads
  · exact .of_reads RegionGroup.reads
  · exact .of_reads GeoService.reads
  · exact .of_reads RegionTable.reads
  · exact .of_reads ProviderKind.reads
  · exact .of_reads ProviderFeatures.reads
  · exact .of_reads ProviderInfo.reads

/-- Names that also name fields of record sets, and the least and the greatest integer of a word. -/
theorem read_print_encode_of_nested :
    let integers : List Value :=
      [.number (.integer (-9223372036854775808)), .number (.integer 18446744073709551615)]
    let data : Value := .object [("kind", .text "\u0000\"\\"), ("type", .array integers)]
    let records : RecordSet := ⟨"config", "A", none, [.single "rdata" data]⟩
    let routed : RoutedRecordSet := ⟨records, .single "name" (.geo ⟨"code", ["DE"], true⟩)⟩
    records.Fits (depthLimit - 3) ∧ RecordSet.decode.read records.encode.print = some records ∧
      RoutedRecordSet.decode.read routed.encode.print = some routed := by
  intro integers data records routed
  have hintegers : (Value.array integers).Fits (depthLimit - 4) := by
    refine .array (List.forall_mem_cons.mpr ⟨.number ⟨?_, ?_⟩, List.forall_mem_singleton.mpr
      (.number ⟨?_, ?_⟩)⟩) <;> decide
  have hfits : data.Fits (depthLimit - 3) :=
    .object (List.forall_mem_cons.mpr ⟨.text _, List.forall_mem_singleton.mpr hintegers⟩)
  have hordered : data.Ordered := by
    refine .object (by decide) (List.forall_mem_cons.mpr ⟨.text _, List.forall_mem_singleton.mpr
      (.array (List.forall_mem_cons.mpr ⟨.number _, List.forall_mem_singleton.mpr (.number _)⟩))⟩)
  have hrecords : records.Fits (depthLimit - 3) := by
    intro entries hentries e he
    obtain rfl := List.mem_singleton.mp hentries
    obtain rfl := List.mem_singleton.mp he
    exact ⟨hfits, hordered⟩
  exact ⟨hrecords, read_print_encode.1 records hrecords, read_print_encode.2.1 routed hrecords⟩

end GeoRouting
