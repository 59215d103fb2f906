import StackMachine.Proofs.Json.Program
import StackMachine.Proofs.Layout
import StackMachine.Proofs.Lines

/-! Traces as JSON. Each entry is one line, which ends with the only newline in it and is read back as the
entry, so that no two lists of entries leave the same bytes. -/
namespace StackMachine

/-! ### A value on one line -/

namespace Json

/-- Without control characters. -/
def Printable (cs : List Char) : Prop := ∀ c ∈ cs, 0x20 ≤ c.toNat

lemma Printable.append {cs ds : List Char} (hcs : Printable cs) (hds : Printable ds) : Printable (cs ++ ds) :=
  List.forall_mem_append.mpr ⟨hcs,hds⟩

lemma Printable.cons {c : Char} {cs : List Char} (hc : 0x20 ≤ c.toNat) (hcs : Printable cs) :
    Printable (c :: cs) :=
  List.forall_mem_cons.mpr ⟨hc,hcs⟩

lemma Printable.bracket {opening closing : Char} {cs : List Char} (h : Printable cs)
    (hopening : 0x20 ≤ opening.toNat) (hclosing : 0x20 ≤ closing.toNat) :
    Printable (opening :: cs ++ [closing]) := by
  refine (h.cons hopening).append ?_
  simpa [Printable] using hclosing

lemma shortEscape?_printable {c d : Char} (h : shortEscape? d = some c) : 0x20 ≤ d.toNat := by
  unfold shortEscape? at h
  split at h
  case h_9 => cases h
  all_goals decide

lemma printable_control {n : Nat} (h : n < 0x20) :
    0x20 ≤ (hexDigit (n / 16)).toNat ∧ 0x20 ≤ (hexDigit (n % 16)).toNat := by
  decide +revert

lemma printable_escape (c : Char) : Printable (escape c) := by
  obtain ⟨d,hd,he⟩ | ⟨hcontrol,he⟩ | ⟨_,_,hcontrol,he⟩ := escape_cases c <;> rw [he]
  · simpa [Printable] using shortEscape?_printable hd
  · simpa [Printable] using printable_control hcontrol
  · simpa [Printable] using hcontrol

lemma printable_quote (s : String) : Printable (quote s) := by
  apply Printable.bracket
  · intro c hc
    obtain ⟨d,_,hcd⟩ := List.mem_flatMap.mp hc
    exact printable_escape d c hcd
  · decide
  · decide

lemma printable_of_isDigit {c : Char} (h : Text.isDigit c = true) : 0x20 ≤ c.toNat := by
  simp only [Text.isDigit, Bool.and_eq_true, decide_eq_true_eq] at h
  have hzero : '0'.toNat ≤ c.toNat := h.1
  exact Nat.le_trans (by decide) hzero

lemma printable_signedDecimal (i : Int) : Printable (Text.signedDecimal i) := by
  have hdigits : Printable (Text.decimal i.natAbs) := by
    intro c hc
    exact printable_of_isDigit ((Text.digits_decimal i.natAbs).all c hc)
  unfold Text.signedDecimal
  split
  · exact hdigits.cons (by decide)
  · exact hdigits

lemma printable_commaSeparated {pieces : List (List Char)} (h : ∀ piece ∈ pieces, Printable piece) :
    Printable (commaSeparated pieces) := by
  apply Text.forall_mem_intercalate
  · simp
  · exact h

lemma escape_of_printable {c : Char} (hquote : c ≠ '"') (hslash : c ≠ '\\') (h : 0x20 ≤ c.toNat) :
    escape c = [c] := by
  have hne {d : Char} (hd : d.toNat < 0x20) : c ≠ d := by
    rintro rfl
    omega
  rw [escape, if_neg hquote, if_neg hslash, if_neg (hne (by decide)), if_neg (hne (by decide)),
    if_neg (hne (by decide)), if_neg (hne (by decide)), if_neg (hne (by decide)), if_neg (Nat.not_lt.mpr h)]

/-- Nothing in an instruction is escaped. -/
lemma escape_text (i : Instruction) : ∀ c ∈ i.text.toList, escape c = [c] := by
  have hnames (op : Opcode) : op.mnemonic.toList.all (fun c => escape c == [c]) = true := by
    cases op <;> decide
  refine i.forall_mem_text (P := fun c => escape c = [c]) ?_ ?_ ?_
  · intro op c hc
    exact eq_of_beq (List.all_eq_true.mp (hnames op) c hc)
  · decide
  · intro cs v hn c hc
    obtain hd | rfl | rfl := hn.mem c hc
    · refine escape_of_printable ?_ ?_ (printable_of_isDigit hd) <;> rintro rfl <;> revert hd <;> decide
    · decide
    · decide

/-- A text in which nothing is escaped is written as it is. -/
lemma infix_quote {s : String} (h : ∀ c ∈ s.toList, escape c = [c]) : s.toList <:+: quote s := by
  have hself : s.toList.flatMap escape = s.toList := by
    rw [List.flatMap_congr h, List.flatMap_singleton']
  exact ⟨['"'],['"'],by rw [quote, hself]; rfl⟩

lemma infix_commaSeparated {piece : List Char} {pieces : List (List Char)} (h : piece ∈ pieces) :
    piece <:+: commaSeparated pieces := by
  unfold commaSeparated
  induction pieces with
  | nil => cases h
  | cons first pieces ih =>
    cases pieces with
    | nil =>
      obtain rfl := List.mem_singleton.mp h
      exact ⟨[],[],by simp⟩
    | cons next pieces =>
      rw [List.intercalate_cons_cons]
      obtain rfl | hmore := List.mem_cons.mp h
      · rw [List.append_assoc]
        exact (List.prefix_append _ _).isInfix
      · exact (ih hmore).trans (List.suffix_append _ _).isInfix

/-- The value of each member stands in a record. -/
lemma infix_record {key : String} {d : Datum} {members : List (String × Datum)} (h : (key, d) ∈ members) :
    compactChars d <:+: compactChars (.record members) := by
  have hvalue : compactChars d <:+: compactMember (key, d) := ⟨quote key ++ [':'],[],by simp [compactMember]⟩
  have hmember : compactMember (key, d) ∈ compactMembers members := by
    rw [compactMembers_eq_map]
    exact List.mem_map_of_mem h
  have hbrackets : commaSeparated (compactMembers members) <:+: compactChars (.record members) :=
    ⟨['\x7b'],['\x7d'],by rw [compactChars]; rfl⟩
  exact (hvalue.trans (infix_commaSeparated hmember)).trans hbrackets

/-- On one line a value is written without control characters, whatever its texts contain. -/
theorem printable_compact {d : Datum} (h : Plain d) : Printable (compactChars d) := by
  induction h with
  | null => simp [compactChars, Printable]
  | bool b => cases b <;> simp [compactChars, Printable]
  | int i => exact printable_signedDecimal i
  | text s => exact printable_quote s
  | list h ih =>
    rw [compactChars, compactItems_eq_map]
    refine (printable_commaSeparated ?_).bracket (by decide) (by decide)
    simpa using ih
  | record h ih =>
    rw [compactChars, compactMembers_eq_map]
    refine (printable_commaSeparated ?_).bracket (by decide) (by decide)
    simp only [List.mem_map]
    rintro _ ⟨m,hm,rfl⟩
    rw [compactMember]
    exact (printable_quote m.1).append ((ih m hm).cons (by decide))

end Json

/-! ### Entries -/

namespace Datum

/-- The natural number that a value stands for. -/
def nat? : Datum → Option Nat
  | .int (.ofNat n) => some n
  | _ => none

def words? : Datum → Option (List Word)
  | .list items => items.mapM word?
  | _ => none

lemma words?_words (ws : List Word) : (Entry.words ws).words? = some ws :=
  mapM_map_eq_some word?_toInt ws

end Datum

namespace Entry

open Json (Plain)

def fieldNames : List String := ["step", "ip", "opcode", "instruction", "stack", "locals"]

/-- The entry with these fields. -/
def ofMembers? (members : List (String × Datum)) : Option Entry := do
  let step ← members.lookup "step" >>= Datum.nat?
  let ip ← members.lookup "ip" >>= Datum.nat?
  let opcode ← members.lookup "opcode" >>= Datum.text? >>= Opcode.ofName?
  let instruction ← members.lookup "instruction" >>= Datum.text?
  let stack ← members.lookup "stack" >>= Datum.words?
  let locals ← members.lookup "locals" >>= Datum.words?
  return { step, ip, opcode, instruction, stack, locals }

lemma exists_members (e : Entry) : ∃ members, e.toDatum = .record members ∧
    members.map Prod.fst = fieldNames ∧ ofMembers? members = some e := by
  refine ⟨_,rfl,rfl,?_⟩
  simp [ofMembers?, List.lookup_cons, Datum.nat?, Datum.text?, Datum.words?_words]

lemma plain_words (ws : List Word) : Plain (words ws) := .map (fun _ => .int _) ws

lemma plain_toDatum (e : Entry) : Plain e.toDatum := by
  apply Plain.record
  simp only [List.forall_mem_cons]
  exact ⟨.int _,.int _,.text _,.text _,plain_words _,plain_words _,by simp⟩

lemma toDatum_injective : Function.Injective toDatum := by
  intro e e' h
  obtain ⟨members,hdatum,_,hentry⟩ := e.exists_members
  obtain ⟨members',hdatum',_,hentry'⟩ := e'.exists_members
  rw [hdatum, hdatum', Datum.record.injEq] at h
  rw [← h, hentry] at hentry'
  exact Option.some.inj hentry'

/-- The text is one line that is read as a record with the fields of the entry. -/
structure IsLine (line : String) (e : Entry) : Prop where
  no_newline : 10 ∉ Text.bytes line
  reads : ∃ members, Json.read line = some (.record members) ∧
    members.map Prod.fst = fieldNames ∧ ofMembers? members = some e

lemma isLine_compact (e : Entry) : IsLine (Json.compact e.toDatum) e := by
  constructor
  · intro hten
    have hnewline := Text.newline_of_mem_bytes hten
    exact absurd (Json.printable_compact e.plain_toDatum _ hnewline) (by decide)
  · obtain ⟨members,hdatum,hnames,hentry⟩ := e.exists_members
    exact ⟨members,hdatum ▸ Json.read_compact e.plain_toDatum,hnames,hentry⟩

lemma shows_json {e : Entry} {i : Instruction} (h : e.instruction = i.text) :
    TraceFormat.Shows .json e (Json.compact e.toDatum) where
  line_eq := rfl
  nonempty := by
    intro hempty
    have hchars := congrArg String.toList hempty
    rw [Json.compact, String.toList_ofList, toDatum, Json.compactChars] at hchars
    cases hchars
  no_newline := e.isLine_compact.no_newline
  instruction := by
    have hquote : e.instruction.toList <:+: Json.compactChars (.text e.instruction) :=
      Json.infix_quote (h ▸ Json.escape_text i)
    have hmember : ("instruction", Datum.text e.instruction) ∈ [("step", .int e.step), ("ip", .int e.ip),
        ("opcode", .text e.opcode.name), ("instruction", .text e.instruction), ("stack", words e.stack),
        ("locals", words e.locals)] := by simp
    rw [Json.compact, String.toList_ofList]
    exact hquote.trans (Json.infix_record hmember)

lemma compact_injective : Function.Injective fun e : Entry => Json.compact e.toDatum := by
  intro e e' h
  have hread := congrArg Json.read h
  simp only [Json.read_compact e.plain_toDatum, Json.read_compact e'.plain_toDatum, Option.some.injEq] at hread
  exact toDatum_injective hread

end Entry

namespace TraceFormat

/-- The document of a JSON trace is made of the lines of its entries. -/
lemma document_json (es : List Entry) :
    document .json es = Text.framed ((es.map fun e => Json.compact e.toDatum).map Text.bytes) := by
  have hheader : headerBytes .json = [] := by decide
  have h : List.Forall₂ (fun e row => line .json e = row ++ "\n") es (es.map fun e => Json.compact e.toDatum) := by
    rw [List.forall₂_map_right_iff, List.forall₂_same]
    exact fun e _ => rfl
  rw [document_eq_framed h, hheader, List.nil_append]

lemma document_json_injective : Function.Injective (document .json) := by
  have h : Function.Injective fun es : List Entry => document .json (es.map id) :=
    document_injective (fun _ => rfl) (fun e => e.isLine_compact.no_newline) Entry.compact_injective
  simpa only [List.map_id] using h

end TraceFormat

namespace Writer

open Output

/-- The entries of a JSON trace can be told from its bytes: each entry is one line, which ends with the only
newline in it and is read as a record with the six fields of the entry, and other entries leave other
bytes. -/
theorem json_trace_decodable (es : List Entry) :
    ∃ w, Writer.new .json { limit := none } = .ok w ∧ (es.foldl Writer.record w).finish = .ok () ∧
      (∃ lines : List String, List.Forall₂ Entry.IsLine lines es ∧
        (es.foldl Writer.record w).output.toList = lines.flatMap fun line => Text.bytes line ++ [10]) ∧
      ∀ es' : List Entry,
        (es'.foldl Writer.record w).output.toList = (es.foldl Writer.record w).output.toList → es' = es := by
  obtain ⟨w,hnew,hwrote⟩ := exists_wrote_unlimited .json
  refine ⟨w,hnew,(hwrote es).finish_iff.mpr (fits_none _),⟨es.map fun e => Json.compact e.toDatum,?_,?_⟩,?_⟩
  · rw [List.forall₂_map_left_iff, List.forall₂_same]
    exact fun e _ => e.isLine_compact
  · rw [(hwrote es).took.toList_eq, keep_none, TraceFormat.document_json, Text.framed, List.flatMap_map]
  · intro es' h
    rw [(hwrote es').took.toList_eq, (hwrote es).took.toList_eq] at h
    exact TraceFormat.document_json_injective h

end Writer
end StackMachine
