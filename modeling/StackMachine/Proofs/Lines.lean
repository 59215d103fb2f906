import Mathlib.Data.List.Forall2
import StackMachine.Proofs.Words
import StackMachine.Proofs.Written

/-! Traces line by line. A row that has no newline of its own is found again before its newline, so what a writer
leaves can be taken apart into the rows of its entries. -/
namespace StackMachine

namespace Text

/-- The bytes of a text. -/
def bytes (s : String) : List UInt8 := s.toUTF8.data.toList

lemma bytes_append (s t : String) : bytes (s ++ t) = bytes s ++ bytes t := by
  simp [bytes, String.toUTF8, String.toByteArray_append]

lemma bytes_injective : Function.Injective bytes := by
  intro s t h
  apply String.toByteArray_inj.mp
  exact ByteArray.ext (Array.toList_inj.mp h)

/-- A character is its own byte, or all of its bytes are above the ASCII ones. -/
lemma toNat_of_mem_encode (c : Char) :
    ∀ b ∈ String.utf8EncodeChar c, b.toNat = c.toNat ∨ 0x80 ≤ b.toNat := by
  have hbyte {n : Nat} (hn : n < 256) : (UInt8.ofNat n).toNat = n := UInt8.toNat_ofNat_of_lt' hn
  have hlarge {n : Nat} (hn : 0x80 ≤ n ∧ n < 256) :
      (UInt8.ofNat n).toNat = c.toNat ∨ 0x80 ≤ (UInt8.ofNat n).toNat :=
    .inr (hn.1.trans_eq (hbyte hn.2).symm)
  simp only [String.utf8EncodeChar]
  split_ifs <;> simp only [List.forall_mem_cons]
  · exact ⟨.inl (hbyte (by omega)),by simp⟩
  · exact ⟨hlarge (by omega),hlarge (by omega),by simp⟩
  · exact ⟨hlarge (by omega),hlarge (by omega),hlarge (by omega),by simp⟩
  · exact ⟨hlarge (by omega),hlarge (by omega),hlarge (by omega),hlarge (by omega),by simp⟩

lemma newline_of_mem_bytes {cs : List Char} (h : 10 ∈ bytes (String.ofList cs)) : '\n' ∈ cs := by
  rw [bytes, String.toUTF8, String.toByteArray_ofList, List.utf8Encode, List.toList_data_toByteArray,
    List.mem_flatMap] at h
  obtain ⟨c,hc,hten⟩ := h
  obtain hnat | hlarge := toNat_of_mem_encode c 10 hten
  · have heq : c = '\n' := Char.toNat_inj.mp hnat.symm
    rwa [heq] at hc
  · exact absurd hlarge (by decide)

/-- Lines, each with a newline behind it. -/
def framed (lines : List (List UInt8)) : List UInt8 := lines.flatMap (· ++ [10])

/-- Lines without newlines of their own are found again. -/
lemma splitOn_framed {lines : List (List UInt8)} (h : ∀ line ∈ lines, 10 ∉ line) :
    (framed lines).splitOn 10 = lines ++ [[]] := splitOn_flatMap h

lemma framed_inj {lines lines' : List (List UInt8)} (h : ∀ line ∈ lines, 10 ∉ line)
    (h' : ∀ line ∈ lines', 10 ∉ line) (heq : framed lines = framed lines') : lines = lines' := by
  have hsplit := congrArg (List.splitOn 10) heq
  rw [splitOn_framed h, splitOn_framed h'] at hsplit
  exact List.append_cancel_right hsplit

end Text

namespace TraceFormat

/-- How an entry is written: as one line, with a row that is not empty, shows the instruction and has no newline
in it. -/
structure Shows (format : TraceFormat) (e : Entry) (row : String) : Prop where
  line_eq : format.line e = row ++ "\n"
  nonempty : row ≠ ""
  no_newline : 10 ∉ Text.bytes row
  instruction : e.instruction.toList <:+: row.toList

variable {format : TraceFormat} {e : Entry} {es : List Entry} {row : String} {rows : List String}

lemma lineBytes_eq (h : format.line e = row ++ "\n") : format.lineBytes e = Text.bytes row ++ [10] := by
  rw [lineBytes, h]
  exact Text.bytes_append _ "\n"

/-- Behind its heading a document is made of the lines of its entries. -/
lemma document_eq_framed (h : List.Forall₂ (fun e row => format.line e = row ++ "\n") es rows) :
    format.document es = format.headerBytes ++ Text.framed (rows.map Text.bytes) := by
  rw [document]
  congr 1
  induction h with
  | nil => rfl
  | cons hrow _ ih =>
    rw [List.flatMap_cons, lineBytes_eq hrow, ih]
    rfl

lemma exists_rows (h : ∀ e ∈ es, ∃ row, format.Shows e row) : ∃ rows, List.Forall₂ format.Shows es rows := by
  induction es with
  | nil => exact ⟨[],.nil⟩
  | cons e es ih =>
    rw [List.forall_mem_cons] at h
    obtain ⟨⟨row,hrow⟩,hmore⟩ := h
    obtain ⟨rows,hrows⟩ := ih hmore
    exact ⟨row :: rows,.cons hrow hrows⟩

/-- A document ends with the line of its last entry. -/
lemma suffix_document (he : es.getLast? = some e) (h : format.Shows e row) :
    Text.bytes row ++ [10] <:+ format.document es := by
  obtain ⟨before,rfl⟩ := List.getLast?_eq_some_iff.mp he
  rw [document_concat, ← lineBytes, lineBytes_eq h.line_eq]
  exact List.suffix_append _ _

/-- A document of rows that each tell their entry, and have no newline inside, tells its entries. -/
lemma document_injective {α : Type} {entry : α → Entry} {text : α → String}
    (hline : ∀ a, format.line (entry a) = text a ++ "\n") (no_newline : ∀ a, 10 ∉ Text.bytes (text a))
    (hinj : Function.Injective text) :
    Function.Injective fun as : List α => format.document (as.map entry) := by
  intro as as' h
  have hdocument (as : List α) :
      format.document (as.map entry) = format.headerBytes ++ Text.framed ((as.map text).map Text.bytes) := by
    apply document_eq_framed
    rw [List.forall₂_map_left_iff, List.forall₂_map_right_iff, List.forall₂_same]
    exact fun a _ => hline a
  have hlines (as : List α) : ∀ line ∈ (as.map text).map Text.bytes, 10 ∉ line := by
    simpa using fun a _ => no_newline a
  simp only [hdocument] at h
  have hmap := Text.framed_inj (hlines as) (hlines as') (List.append_cancel_left h)
  exact hinj.list_map (Text.bytes_injective.list_map hmap)

end TraceFormat

namespace Writer

open Output

lemma Wrote.record {w : Writer} {format : TraceFormat} {es : List Entry} (h : w.Wrote none format es)
    (e : Entry) : (w.record e).Wrote none format (es ++ [e]) := by
  obtain ⟨w',hwrite,hwrote⟩ := h.writeEntry_of_fits (e := e) (fits_none _)
  simpa only [Writer.record, hwrite] using hwrote

/-- On an output without a limit a writer leaves the document of all that it records. -/
lemma exists_wrote_unlimited (format : TraceFormat) :
    ∃ w, Writer.new format { limit := none } = .ok w ∧
      ∀ es : List Entry, (es.foldl Writer.record w).Wrote none format es := by
  obtain ⟨w,hnew,hstart⟩ := new_of_fits (fits_none format.headerBytes)
  exact ⟨w,hnew,foldl_invariant (P := fun es w => Wrote w none format es) (fun _ _ e h => h.record e) hstart⟩

end Writer
end StackMachine
