import GeoRouting.Text.Excerpt
import Mathlib.Data.String.Basic

/-!
# What an excerpt shows

The limit counts characters and the cut counts bytes, whatever number of them a character has. The
cut is where the first character beyond the limit starts, so an excerpt breaks no character. Texts
that start alike and are equally long in bytes have the same excerpt.
-/

namespace GeoRouting.Text

open String (utf8Len)

theorem getElem?_charOffsets (start : Nat) (cs : List Char) (n : Nat) :
    (charOffsets start cs)[n]? =
      if n < cs.length then some (start + utf8Len (cs.take n)) else none := by
  induction cs generalizing start n with
  | nil => rfl
  | cons c cs ih =>
    cases n with
    | zero => simp [charOffsets]
    | succ n =>
      rw [charOffsets, List.getElem?_cons_succ, ih]
      simp [Nat.add_assoc, Nat.add_comm c.utf8Size]

/-- The beginning of a text that an excerpt keeps. -/
def kept (s : String) : String := .ofList (s.toList.take excerptLimit)

/-- The rest of a text. -/
def dropped (s : String) : String := .ofList (s.toList.drop excerptLimit)

theorem kept_append_dropped (s : String) : kept s ++ dropped s = s := by
  rw [kept, dropped, ← String.ofList_append, List.take_append_drop, String.ofList_toList]

theorem cut?_of_long {s : String} (h : excerptLimit < s.length) :
    cut? s = some (kept s).rawEndPos := by
  rw [cut?, getElem?_charOffsets, String.length_toList, if_pos h, Nat.zero_add, kept,
    String.rawEndPos_ofList]
  rfl

/-- The cut is between two characters. -/
theorem isValid_of_cut? {s : String} {cut : String.Pos.Raw} (h : cut? s = some cut) :
    cut.IsValid s := by
  have hlong : excerptLimit < s.length := by
    by_contra hshort
    rw [cut?_eq_none.mpr (Nat.not_lt.mp hshort)] at h
    cases h
  rw [cut?_of_long hlong] at h
  exact String.Pos.Raw.isValid_iff_exists_append.mpr
    ⟨kept s, dropped s, (kept_append_dropped s).symm, (Option.some.inj h).symm⟩

/-- The bytes before the cut are those of whole characters. -/
theorem extract_kept (s : String) : String.Pos.Raw.extract s 0 (kept s).rawEndPos = kept s := by
  have hextract := String.extract_of_valid [] (kept s).toList (dropped s).toList
  simpa [String.ofList_append, kept_append_dropped, String.rawEndPos] using hextract

theorem excerpt_of_long {s : String} (h : excerptLimit < s.length) :
    excerpt s = kept s ++ s!"... [{s.utf8ByteSize} bytes]" := by
  rw [excerpt, cut?_of_long h]
  exact congrArg (· ++ _) (extract_kept s)

/-- Whether texts agree in all that an excerpt shows. -/
structure ShownAlike (s t : String) : Prop where
  characters : s.toList.take excerptLimit = t.toList.take excerptLimit
  bytes : s.utf8ByteSize = t.utf8ByteSize

namespace ShownAlike
variable {s t : String}

theorem symm (h : ShownAlike s t) : ShownAlike t s := ⟨h.characters.symm, h.bytes.symm⟩

theorem kept_eq (h : ShownAlike s t) : kept s = kept t := congrArg String.ofList h.characters

/-- A text that is shown in full leaves no bytes for another one to go on with. -/
theorem eq_of_short (h : ShownAlike s t) (hs : s.length ≤ excerptLimit) : s = t := by
  have hkept : kept s = s := by
    rw [kept, List.take_of_length_le (String.length_toList.trans_le hs), String.ofList_toList]
  have ht : s ++ dropped t = t := by
    rw [← hkept, h.kept_eq, kept_append_dropped]
  have hsize : s.utf8ByteSize = s.utf8ByteSize + (dropped t).utf8ByteSize := by
    rw [← String.utf8ByteSize_append, ht, h.bytes]
  have hnone : dropped t = "" := String.utf8ByteSize_eq_zero_iff.mp (by omega)
  rw [← ht, hnone, String.append_empty]

theorem excerpt_eq (h : ShownAlike s t) : excerpt s = excerpt t := by
  rcases Nat.lt_or_ge excerptLimit s.length with hs | hs
  · rcases Nat.lt_or_ge excerptLimit t.length with ht | ht
    · rw [excerpt_of_long hs, excerpt_of_long ht, h.kept_eq, h.bytes]
    · rw [h.symm.eq_of_short ht]
  · rw [h.eq_of_short hs]

/-- Texts that start alike far enough, and end in as many bytes. -/
theorem of_append {start : String} (hstart : excerptLimit ≤ start.length)
    (hsize : s.utf8ByteSize = t.utf8ByteSize) : ShownAlike (start ++ s) (start ++ t) where
  characters := by
    rw [← String.length_toList] at hstart
    rw [String.toList_append, String.toList_append, List.take_append_of_le_length hstart,
      List.take_append_of_le_length hstart]
  bytes := by rw [String.utf8ByteSize_append, String.utf8ByteSize_append, hsize]

/-- What stands around texts does not show more of them. -/
theorem around (h : ShownAlike s t) (before after : String) :
    ShownAlike (before ++ s ++ after) (before ++ t ++ after) where
  characters := by
    rcases Nat.lt_or_ge excerptLimit s.length with hs | hs
    · rcases Nat.lt_or_ge excerptLimit t.length with ht | ht
      · have hpart : ∀ n ≤ excerptLimit,
            (s.toList ++ after.toList).take n = (t.toList ++ after.toList).take n := by
          intro n hn
          rw [← String.length_toList] at hs ht
          rw [List.take_append_of_le_length (hn.trans hs.le),
            List.take_append_of_le_length (hn.trans ht.le)]
          simpa [List.take_take, hn] using congrArg (List.take n) h.characters
        have hbefore : ∀ cs : List Char, (before.toList ++ cs).take excerptLimit =
            before.toList.take excerptLimit ++ cs.take (excerptLimit - before.toList.length) :=
          fun _ => List.take_append
        simp only [String.toList_append, List.append_assoc]
        rw [hbefore, hbefore, hpart _ (Nat.sub_le _ _)]
      · rw [h.symm.eq_of_short ht]
    · rw [h.eq_of_short hs]
  bytes := by simp only [String.utf8ByteSize_append, h.bytes]

end ShownAlike

end GeoRouting.Text
