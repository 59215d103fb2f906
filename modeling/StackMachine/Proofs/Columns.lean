import StackMachine.Proofs.Layout
import StackMachine.Proofs.Lines

/-! Traces in columns. A column is filled up but never cut, so nothing stands at a fixed place in a row. Still
a row can be read in one way only: the words before its first bracket are the step, the instruction pointer
and the instruction, and a bracket closes behind the last of the values that it holds. -/
namespace StackMachine

open Text

namespace Text

/-! ### Values in brackets -/

/-- Characters that neither end a line nor are brackets. -/
def Unbracketed (cs : List Char) : Prop := ∀ c ∈ cs, c ≠ '[' ∧ c ≠ ']' ∧ c ≠ '\n'

lemma unbracketed_of_all {cs : List Char} (h : cs.all (fun c => c != '[' && c != ']' && c != '\n') = true) :
    Unbracketed cs := by
  intro c hc
  simpa [and_assoc] using List.all_eq_true.mp h c hc

lemma Unbracketed.append {cs ds : List Char} (hc : Unbracketed cs) (hd : Unbracketed ds) :
    Unbracketed (cs ++ ds) :=
  List.forall_mem_append.mpr ⟨hc,hd⟩

lemma Numeral.unbracketed {cs : List Char} {v : Int} (h : Numeral cs v) : Unbracketed cs := by
  intro c hc
  obtain hd | rfl | rfl := h.mem c hc
  · refine ⟨?_,?_,?_⟩ <;> rintro rfl <;> revert hd <;> decide
  · decide
  · decide

lemma Numeral.not_mem {cs : List Char} {v : Int} (h : Numeral cs v) : ',' ∉ cs ∧ ' ' ∉ cs := by
  constructor <;> intro hc <;> obtain hd | hd | hd := h.mem _ hc <;> revert hd <;> decide

/-- What stands before the first of a character, and what stands behind it, can be told apart. -/
lemma append_cons_inj {c : Char} {cs cs' rest rest' : List Char} (hcs : c ∉ cs) (hcs' : c ∉ cs')
    (h : cs ++ c :: rest = cs' ++ c :: rest') : cs = cs' ∧ rest = rest' := by
  have hfront {ds : List Char} (hds : c ∉ ds) (more : List Char) :
      (ds ++ c :: more).takeWhile (· != c) = ds := by
    rw [List.takeWhile_append_of_pos, List.takeWhile_cons_of_neg (by simp), List.append_nil]
    intro d hd
    exact bne_iff_ne.mpr (ne_of_mem_of_not_mem hd hds)
  have heq : cs = cs' := by rw [← hfront hcs rest, h, hfront hcs' rest']
  subst heq
  exact ⟨rfl,(List.cons.inj (List.append_cancel_left h)).2⟩

/-- The numerals of these values. -/
def numerals (ws : List Word) : List (List Char) := ws.map fun w => signedDecimal w.toInt

/-- What stands between the brackets of a list of values. -/
def listed (ws : List Word) : List Char := List.intercalate [',', ' '] (numerals ws)

lemma toList_bracketed (ws : List Word) : (bracketed ws).toList = '[' :: listed ws ++ [']'] := by
  rw [bracketed, String.toList_ofList]
  rfl

lemma readWord_signedDecimal (w : Word) : readWord (signedDecimal w.toInt) = .ok w :=
  readWord_eq_ok_iff.mpr ⟨_,numeral_signedDecimal _,inWord_toInt w,w.ofInt_toInt⟩

lemma numerals_injective : Function.Injective numerals := by
  apply Function.Injective.list_map
  intro v w h
  have hread := congrArg readWord h
  simp only [readWord_signedDecimal] at hread
  exact Except.ok.inj hread

lemma forall_mem_numerals {P : List Char → Prop} (h : ∀ cs v, Numeral cs v → P cs) (ws : List Word) :
    ∀ cs ∈ numerals ws, P cs := by
  intro cs hcs
  obtain ⟨w,_,rfl⟩ := List.mem_map.mp hcs
  exact h _ _ (numeral_signedDecimal w.toInt)

lemma unbracketed_listed (ws : List Word) : Unbracketed (listed ws) := by
  apply forall_mem_intercalate
  · exact unbracketed_of_all (by decide)
  · exact forall_mem_numerals (fun _ _ hn => hn.unbracketed) ws

/-- Without its spaces a list of values is its numerals with commas between them. -/
lemma filter_listed (ws : List Word) :
    (listed ws).filter (· != ' ') = List.intercalate [','] (numerals ws) := by
  have hself : ∀ piece ∈ numerals ws, piece.filter (· != ' ') = piece := by
    apply forall_mem_numerals
    intro cs v hn
    rw [List.filter_eq_self]
    intro c hc
    exact bne_iff_ne.mpr (ne_of_mem_of_not_mem hc hn.not_mem.2)
  unfold listed
  generalize numerals ws = pieces at hself ⊢
  induction pieces with
  | nil => rfl
  | cons piece pieces ih =>
    rw [List.forall_mem_cons] at hself
    cases pieces with
    | nil => simpa using hself.1
    | cons next pieces =>
      rw [List.intercalate_cons_cons, List.intercalate_cons_cons, List.filter_append, List.filter_append,
        hself.1, ih hself.2]
      rfl

lemma splitOn_filter_listed {ws : List Word} (h : ws ≠ []) :
    ((listed ws).filter (· != ' ')).splitOn ',' = numerals ws := by
  rw [filter_listed]
  apply List.splitOn_intercalate
  · exact forall_mem_numerals (fun _ _ hn => hn.not_mem.1) ws
  · simpa [numerals] using h

lemma listed_ne_nil {ws : List Word} (h : ws ≠ []) : listed ws ≠ [] := by
  intro hnil
  have hsplit := splitOn_filter_listed h
  rw [hnil] at hsplit
  have hmem : [] ∈ numerals ws := hsplit ▸ List.mem_singleton_self []
  exact forall_mem_numerals (fun _ _ hn => hn.isWord.nonempty) ws _ hmem rfl

/-- The values of a list are found again between its commas. -/
lemma listed_injective : Function.Injective listed := by
  intro ws ws' h
  by_cases hws : ws = []
  · subst hws
    by_contra hne
    exact listed_ne_nil (Ne.symm hne) h.symm
  · have hws' : ws' ≠ [] := by
      rintro rfl
      exact listed_ne_nil hws h
    apply numerals_injective
    rw [← splitOn_filter_listed hws, h, splitOn_filter_listed hws']

/-! ### Words in columns -/

lemma eq_of_mem_spaces {c : Char} {n : Nat} (h : c ∈ (spaces n).toList) : c = ' ' := by
  rw [spaces, String.toList_ofList] at h
  exact List.eq_of_mem_replicate h

lemma allBlank_spaces (n : Nat) : AllBlank (spaces n).toList := by
  intro c hc
  rw [eq_of_mem_spaces hc]
  decide

lemma unbracketed_spaces (n : Nat) : Unbracketed (spaces n).toList := by
  intro c hc
  rw [eq_of_mem_spaces hc]
  decide

/-- A word that is aligned right is the next word, however wide its column is. -/
lemma words_padLeft_append {s : String} {rest : List Char} (hs : IsWord s.toList) (hrest : Breaks rest)
    (width : Nat) : words ((padLeft width s).toList ++ rest) = s.toList :: words rest := by
  rw [padLeft, String.toList_append, List.append_assoc, words_allBlank_append (allBlank_spaces _),
    words_isWord_append hs hrest]

/-- Aligning a text left adds no word to it. -/
lemma words_padRight_append (s : String) {rest : List Char} (hrest : AllBlank rest) (width : Nat) :
    words ((padRight width s).toList ++ rest) = words s.toList := by
  rw [padRight, String.toList_append, List.append_assoc, words_append_allBlank]
  exact List.forall_mem_append.mpr ⟨allBlank_spaces _,hrest⟩

end Text

/-! ### Rows -/

/-- What an entry is captured from. -/
structure Snapshot where
  step : Nat
  frame : Frame
  instruction : Instruction
  deriving DecidableEq

namespace Snapshot

def entry (x : Snapshot) : Entry := Entry.capture x.step x.frame x.instruction

/-- The row of the entry up to its first bracket. -/
def front (x : Snapshot) : List Char :=
  (padLeft 8 (natText x.step)).toList ++ ([' ', ' '] ++ ((padLeft 6 (natText x.frame.ip)).toList ++
    ([' ', ' '] ++ ((padRight 16 x.instruction.text).toList ++ [' ', ' ']))))

/-- What stands between the brackets of the stack and those of the locals. -/
def gap (x : Snapshot) : List Char :=
  (spaces (24 - (bracketed x.frame.stack.reverse).length)).toList ++ [' ', ' ']

/-- The row of the entry, without the end of its line. -/
def rowChars (x : Snapshot) : List Char :=
  x.front ++ '[' :: (listed x.frame.stack.reverse ++ ']' :: (x.gap ++
    '[' :: (listed x.frame.locals.toList ++ [']'])))

lemma line_entry (x : Snapshot) :
    TraceFormat.line .text x.entry = String.ofList x.rowChars ++ "\n" := by
  rw [← String.toList_inj]
  simp [TraceFormat.line, TraceFormat.row, entry, Entry.capture, rowChars, front, gap, padRight,
    toList_bracketed]

lemma words_front (x : Snapshot) :
    words x.front =
      decimal x.step :: decimal x.frame.ip :: words x.instruction.text.toList := by
  have hblank : isBlank ' ' = true := by decide
  have hgap : AllBlank [' ', ' '] := by simp [AllBlank, hblank]
  have hbreaks (cs : List Char) : Breaks ([' ', ' '] ++ cs) := by simp [Breaks, hblank]
  have hword (n : Nat) : IsWord (natText n).toList := by
    rw [natText, String.toList_ofList]
    exact (digits_decimal n).isWord
  rw [front, words_padLeft_append (hword _) (hbreaks _), words_allBlank_append hgap,
    words_padLeft_append (hword _) (hbreaks _), words_allBlank_append hgap, words_padRight_append _ hgap,
    natText, natText, String.toList_ofList, String.toList_ofList]

lemma decimal_injective : Function.Injective decimal := by
  intro m n h
  rw [← valueOnto_decimal m, h, valueOnto_decimal]

/-- The words of its text tell an instruction. -/
lemma eq_of_words_text {i j : Instruction} (h : words i.text.toList = words j.text.toList) : i = j := by
  have hi : Instruction.decode i.text 0 = .ok i := Instruction.decode_eq_ok_iff.mpr i.spells_text
  have hj : Instruction.decode j.text 0 = .ok j := Instruction.decode_eq_ok_iff.mpr j.spells_text
  rw [Instruction.decode, h] at hi
  exact Except.ok.inj (hi.symm.trans hj)

lemma unbracketed_text (i : Instruction) : Unbracketed i.text.toList := by
  have hname (op : Opcode) : Unbracketed op.mnemonic.toList := by
    cases op <;> exact unbracketed_of_all (by decide)
  exact i.forall_mem_text hname (by decide) fun _ _ h => h.unbracketed

lemma unbracketed_front (x : Snapshot) : Unbracketed x.front := by
  have hnumber (width n : Nat) : Unbracketed (padLeft width (natText n)).toList := by
    rw [padLeft, String.toList_append, natText, String.toList_ofList]
    exact (unbracketed_spaces _).append (Numeral.plain (digits_decimal n)).unbracketed
  have htext : Unbracketed (padRight 16 x.instruction.text).toList := by
    rw [padRight, String.toList_append]
    exact (unbracketed_text x.instruction).append (unbracketed_spaces _)
  have hgap : Unbracketed [' ', ' '] := unbracketed_of_all (by decide)
  exact (hnumber _ _).append (hgap.append ((hnumber _ _).append (hgap.append (htext.append hgap))))

lemma unbracketed_gap (x : Snapshot) : Unbracketed x.gap :=
  (unbracketed_spaces _).append (unbracketed_of_all (by decide))

lemma newline_not_mem_rowChars (x : Snapshot) : '\n' ∉ x.rowChars := by
  have hnot {cs : List Char} (h : Unbracketed cs) : '\n' ∉ cs := fun hc => (h _ hc).2.2 rfl
  simp [rowChars, hnot x.unbracketed_front, hnot x.unbracketed_gap, hnot (unbracketed_listed _)]

/-- The instruction stands in its column as it is. -/
lemma shows_text (x : Snapshot) : TraceFormat.Shows .text x.entry (String.ofList x.rowChars) where
  line_eq := x.line_entry
  nonempty := by
    intro hempty
    have hchars := congrArg String.toList hempty
    simp [rowChars] at hchars
  no_newline hten := x.newline_not_mem_rowChars (newline_of_mem_bytes hten)
  instruction := by
    have hfront : x.instruction.text.toList <:+: x.front :=
      ⟨(padLeft 8 (natText x.step)).toList ++ [' ', ' '] ++ (padLeft 6 (natText x.frame.ip)).toList ++ [' ', ' '],
        (spaces (16 - x.instruction.text.length)).toList ++ [' ', ' '],by simp [front, padRight]⟩
    rw [String.toList_ofList]
    exact hfront.trans (List.prefix_append _ _).isInfix

lemma rowChars_injective : Function.Injective rowChars := by
  intro x x' h
  obtain ⟨hfront,h⟩ := append_cons_inj (fun hc => (x.unbracketed_front _ hc).1 rfl)
    (fun hc => (x'.unbracketed_front _ hc).1 rfl) h
  obtain ⟨hstack,h⟩ := append_cons_inj (fun hc => (unbracketed_listed _ _ hc).2.1 rfl)
    (fun hc => (unbracketed_listed _ _ hc).2.1 rfl) h
  obtain ⟨_,h⟩ := append_cons_inj (fun hc => (x.unbracketed_gap _ hc).1 rfl)
    (fun hc => (x'.unbracketed_gap _ hc).1 rfl) h
  have hlocals := List.append_cancel_right h
  have hwords := congrArg words hfront
  rw [words_front, words_front, List.cons.injEq, List.cons.injEq] at hwords
  obtain ⟨hstep,hip,hinstruction⟩ := hwords
  rcases x with ⟨step,⟨stack,locals,ip⟩,i⟩
  rcases x' with ⟨step',⟨stack',locals',ip'⟩,i'⟩
  obtain rfl := decimal_injective hstep
  obtain rfl := decimal_injective hip
  obtain rfl := eq_of_words_text hinstruction
  obtain rfl := List.reverse_injective (listed_injective hstack)
  obtain rfl := Array.toList_inj.mp (listed_injective hlocals)
  rfl

/-- A snapshot with a step, an instruction pointer and an instruction that are wider than their columns. -/
def wide (stack : List Word) (locals : Array Word) : Snapshot :=
  ⟨123456789,⟨stack,locals,1234567⟩,.branchIfEqual (-2147483648)⟩

/-- Each row is one line, so the snapshots can be told from all rows together. -/
lemma document_entries_injective :
    Function.Injective fun xs : List Snapshot => TraceFormat.document .text (xs.map entry) := by
  apply TraceFormat.document_injective line_entry
  · intro x
    exact x.shows_text.no_newline
  · intro x x' h
    exact rowChars_injective (String.ofList_injective h)

end Snapshot

namespace Writer

open Output

/-- The entries of a text trace can be told from its bytes, whatever steps, frames and instructions they were
captured from and however far these run over their columns. -/
theorem text_trace_unambiguous :
    ∃ w, Writer.new .text { limit := none } = .ok w ∧ ∀ xs xs' : List Snapshot,
      ((xs.map Snapshot.entry).foldl Writer.record w).finish = .ok () ∧
      (((xs.map Snapshot.entry).foldl Writer.record w).output.toList =
        ((xs'.map Snapshot.entry).foldl Writer.record w).output.toList → xs = xs') := by
  obtain ⟨w,hnew,hwrote⟩ := exists_wrote_unlimited .text
  refine ⟨w,hnew,fun xs xs' => ⟨(hwrote _).finish_iff.mpr (fits_none _),?_⟩⟩
  intro h
  rw [(hwrote _).took.toList_eq, (hwrote _).took.toList_eq] at h
  exact Snapshot.document_entries_injective h

/-- Every column is too narrow for what stands in it, and the two rows differ only in where the stack ends and
the locals begin. -/
theorem text_trace_unambiguous_wide :
    (8 < (natText 123456789).length ∧ 6 < (natText 1234567).length ∧
      16 < (Instruction.branchIfEqual (-2147483648)).text.length ∧
      24 < (bracketed [-1000000000, 7, -1000000000]).length) ∧
    ∃ w, Writer.new .text { limit := none } = .ok w ∧
      (([Snapshot.wide [-1000000000, 7, -1000000000] #[]].map Snapshot.entry).foldl
        Writer.record w).output.toList ≠
      (([Snapshot.wide [7, -1000000000] #[-1000000000]].map Snapshot.entry).foldl
        Writer.record w).output.toList := by
  refine ⟨by decide +kernel,?_⟩
  obtain ⟨w,hnew,h⟩ := text_trace_unambiguous
  refine ⟨w,hnew,fun heq => ?_⟩
  have hsame := (h _ _).2 heq
  revert hsame
  decide

end Writer
end StackMachine
