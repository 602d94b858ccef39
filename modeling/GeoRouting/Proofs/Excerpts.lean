import GeoRouting.Proofs.RecordStore.StoredRecords
import GeoRouting.Proofs.Row.Ungrouped
import GeoRouting.Proofs.Text.Excerpt

/-!
# Long data stays out of texts

The data of records goes into texts in two places: into the error of a row without a group, which
is logged as well, and into the log line of a record set that is put. Both take an excerpt of it, so
data that starts alike and is equally long cannot be told apart there.
-/

namespace GeoRouting

open Text (ShownAlike)

theorem Violation.detail_ungrouped (name type : String) (values : List String) :
    (ungrouped name type values).detail =
      "expected record to be in a geolocation group: " ++ name ++ " " ++ type ++ " " ++
        Text.excerpt (" ".intercalate values) := rfl

theorem Violation.detail_of_shownAlike (name type : String) {values others : List String}
    (h : ShownAlike (" ".intercalate values) (" ".intercalate others)) :
    (ungrouped name type values).detail = (ungrouped name type others).detail := by
  rw [detail_ungrouped, detail_ungrouped, h.excerpt_eq]

theorem RecordStore.log_put {s : RecordStore} {zone : String}
    (hz : s.containsZone zone = true) (record : RoutedRecordSet) :
    ((put zone record).run.run s).log =
      [⟨.debug, s!"[{provider}] put {zone} {Text.excerpt record.text}"⟩] := by
  obtain ⟨records, hrecords⟩ := containsZone_iff.mp hz
  rw [run_put_of_present hrecords]

/-- A text of at most 128 characters is its own excerpt. The excerpt of a longer one is its first
128 characters, cut off between two characters, and its number of bytes. So two rows without a group
that have one name and one type stop a listing with the same error and the same log line when their
data starts alike and is equally long, whatever comes before and after them; and record sets whose
texts do are put with the same log line. -/
theorem long_data_stays_out_of_texts :
    (∀ s : String,
      (s.length ≤ 128 → Text.excerpt s = s) ∧
      (128 < s.length → ∃ cut, Text.cut? s = some cut ∧ cut.IsValid s ∧
        String.Pos.Raw.extract s 0 cut = .ofList (s.toList.take 128) ∧
        Text.excerpt s = .ofList (s.toList.take 128) ++ s!"... [{s.utf8ByteSize} bytes]")) ∧
    (∀ (provider : String) (first second : Row), first.group? = none → second.group? = none →
      first.name = second.name → first.type = second.type →
      ShownAlike (" ".intercalate first.values) (" ".intercalate second.values) →
      ∃ detail, Grouping.StopsAt provider first detail ∧
        Grouping.StopsAt provider second detail) ∧
    ∀ (zone : String) (first second : RoutedRecordSet), ShownAlike first.text second.text →
      ∀ s t : RecordStore, s.containsZone zone = true → t.containsZone zone = true →
      ∃ line, ((RecordStore.put zone first).run.run s).log = [line] ∧
        ((RecordStore.put zone second).run.run t).log = [line] := by
  refine ⟨fun s => ⟨Text.excerpt_of_short, fun hs => ?_⟩, ?_, ?_⟩
  · exact ⟨_, Text.cut?_of_long hs, Text.isValid_of_cut? (Text.cut?_of_long hs),
      Text.extract_kept s, Text.excerpt_of_long hs⟩
  · intro provider first second hfirst hsecond hname htype hvalues
    refine ⟨_, Grouping.stopsAt_of_ungrouped hfirst provider, ?_⟩
    rw [hname, htype, Violation.detail_of_shownAlike _ _ hvalues]
    exact Grouping.stopsAt_of_ungrouped hsecond provider
  · intro zone first second htexts s t hs ht
    refine ⟨_, RecordStore.log_put hs first, ?_⟩
    rw [htexts.excerpt_eq]
    exact RecordStore.log_put ht second

/-- As many characters as an excerpt keeps, of two bytes each, and some more. -/
def longText (rest : String) : String :=
  .ofList (List.replicate Text.excerptLimit 'é') ++ rest

theorem length_longText (rest : String) : (longText rest).length = Text.excerptLimit + rest.length := by
  rw [longText, String.length_append, String.length_ofList, List.length_replicate]

theorem take_longText (rest : String) :
    (longText rest).toList.take 128 = List.replicate Text.excerptLimit 'é' := by
  rw [longText, String.toList_append, String.toList_ofList]
  exact List.take_left' List.length_replicate

theorem shownAlike_longText {rest other : String} (h : rest.utf8ByteSize = other.utf8ByteSize) :
    ShownAlike (longText rest) (longText other) :=
  .of_append (by rw [String.length_ofList, List.length_replicate]) h

/-- A row of one text. -/
def textRow (text : String) (group : Option GroupRef) : Row :=
  { name := "a.z.", type := "TXT", ttl := some 60, values := [text], geoGroup := group }

/-- A record set of one text, for no group. -/
def textSet (text : String) : RoutedRecordSet :=
  ⟨⟨"a.z.", "TXT", none, [.single "txtdata" (.text text)]⟩, .empty⟩

theorem text_textSet (text : String) :
    (textSet text).text = "a.z. TXT [\x7btxtdata=" ++ text ++ "\x7d]" := by
  apply String.toList_inj.mp
  have hentries : (Dict.single "txtdata" (Json.Value.text text)).entries =
      [("txtdata", .text text)] := rfl
  have hroutes : (Dict.empty : Dict Route).entries = [] := rfl
  simp [textSet, RoutedRecordSet.text, RecordSet.text, Rdata.text, Rdata.valueText, Dict.values,
    hentries, hroutes]

/-- Two texts that end in as many bytes, though not in as many characters. -/
theorem long_data_of_different_ends :
    let load : TerritorySource Unit := .fixed fun _ => .ok ["BE"]
    let before := [textRow "short" (some ⟨"1", "eu"⟩)]
    let out (rows : List Row) := ((Grouping.ofRows "t" none rows).drain load .empty).run ()
    let log (text : String) :=
      ((RecordStore.put "z." (textSet text)).run.run (RecordStore.ofHistory [.addZone "z."])).log
    128 < (longText "ab").length ∧ ShownAlike (longText "ab") (longText "é") ∧
      Text.excerpt (longText "ab") = .ofList (List.replicate Text.excerptLimit 'é') ++ "... [258 bytes]" ∧
      (∃ detail, Grouping.StopsAt "t" (textRow (longText "ab") none) detail ∧
        Grouping.StopsAt "t" (textRow (longText "é") none) detail) ∧
      out (before ++ textRow (longText "ab") none :: before) =
        out (before ++ [textRow (longText "é") none]) ∧
      log (longText "ab") = log (longText "é") := by
  intro load before out log
  have hlong : 128 < (longText "ab").length := by rw [length_longText]; decide
  have halike : ShownAlike (longText "ab") (longText "é") := shownAlike_longText (by decide)
  have hbytes : (longText "ab").utf8ByteSize = 258 := by decide +kernel
  have hz : (RecordStore.ofHistory [.addZone "z."]).containsZone "z." = true := by decide +kernel
  obtain ⟨hexcerpt, hrows, hputs⟩ := long_data_stays_out_of_texts
  obtain ⟨cut, -, -, -, hshown⟩ := (hexcerpt (longText "ab")).2 hlong
  rw [take_longText, hbytes] at hshown
  generalize longText "ab" = first, longText "é" = second at *
  obtain ⟨detail, hfirst, hsecond⟩ :=
    hrows "t" (textRow first none) (textRow second none) rfl rfl rfl rfl halike
  have htexts : ShownAlike (textSet first).text (textSet second).text := by
    rw [text_textSet, text_textSet]
    exact halike.around _ _
  obtain ⟨line, hline, hline'⟩ := hputs "z." _ _ htexts _ _ hz hz
  refine ⟨hlong, halike, hshown, ⟨detail, hfirst, hsecond⟩, ?_, hline.trans hline'.symm⟩
  exact (hfirst.drained load .empty none before before ()).trans
    (hsecond.drained load .empty none before [] ()).symm

end GeoRouting
