import Mathlib.Data.List.Forall2
import StackMachine.Program
import StackMachine.Proofs.Grammar
import StackMachine.Source

/-! Programs laid out as source text. Whatever blanks stand around the instructions and whatever comments
behind them, loading a source leaves the canonical texts of its instructions, and these read back as the
program that they were written for. -/
namespace StackMachine

open Text

namespace Source

/-- What begins a comment. -/
inductive Marker
  | hash
  | slashes

def Marker.chars : Marker → List Char
  | .hash => ['#']
  | .slashes => ['/', '/']

/-- A comment goes on to the end of its line. -/
structure Comment where
  marker : Marker
  text : List Char
  oneLine : '\n' ∉ text

def Comment.chars (c : Comment) : List Char := c.marker.chars ++ c.text

/-- Blanks on one line. -/
structure Margin where
  chars : List Char
  blank : AllBlank chars
  oneLine : '\n' ∉ chars

/-- How the line of an instruction is laid out. -/
structure Layout where
  before : Margin
  after : Margin
  comment : Option Comment

/-- The line of an instruction that is laid out so. -/
def Layout.line (l : Layout) (i : Instruction) : List Char :=
  l.before.chars ++ i.text.toList ++ l.after.chars ++ l.comment.elim [] Comment.chars

/-- The source of instructions, each laid out in a way of its own. -/
def written (is : List (Instruction × Layout)) : String :=
  String.ofList (List.intercalate ['\n'] (is.map fun x => x.2.line x.1))

/-- Characters that neither end a line nor may begin a comment. -/
def Plain (cs : List Char) : Prop := ∀ c ∈ cs, c ≠ '\n' ∧ c ≠ '#' ∧ c ≠ '/'

lemma plain_of_all {cs : List Char} (h : cs.all (fun c => c != '\n' && c != '#' && c != '/') = true) :
    Plain cs := by
  intro c hc
  simpa [and_assoc] using List.all_eq_true.mp h c hc

lemma Plain.append {cs ds : List Char} (hc : Plain cs) (hd : Plain ds) : Plain (cs ++ ds) :=
  List.forall_mem_append.mpr ⟨hc,hd⟩

lemma Margin.plain (m : Margin) : Plain m.chars := by
  intro c hc
  have hblank := m.blank c hc
  refine ⟨fun h => m.oneLine (h ▸ hc),?_,?_⟩ <;> rintro rfl <;> revert hblank <;> decide

end Source

/-! ### The canonical text -/

namespace Text

lemma Numeral.mem {cs : List Char} {v : Int} (h : Numeral cs v) :
    ∀ c ∈ cs, isDigit c = true ∨ c = '+' ∨ c = '-' := by
  cases h with
  | plain digits => exact fun c hc => .inl (digits.all c hc)
  | plus digits =>
    exact List.forall_mem_cons.mpr ⟨.inr (.inl rfl),fun c hc => .inl (digits.all c hc)⟩
  | minus digits =>
    exact List.forall_mem_cons.mpr ⟨.inr (.inr rfl),fun c hc => .inl (digits.all c hc)⟩

lemma Numeral.isPlain {cs : List Char} {v : Int} (h : Numeral cs v) : Source.Plain cs := by
  intro c hc
  obtain hd | rfl | rfl := h.mem c hc
  · refine ⟨?_,?_,?_⟩ <;> rintro rfl <;> revert hd <;> decide
  · decide
  · decide

/-- A text that is not empty and has no blank at either end. -/
structure Trimmed (cs : List Char) : Prop where
  nonempty : cs ≠ []
  head : ∀ c ∈ cs.head?, isBlank c = false
  last : ∀ c ∈ cs.getLast?, isBlank c = false

lemma IsWord.trimmed {w : List Char} (h : IsWord w) : Trimmed w where
  nonempty := h.nonempty
  head c hc := h.solid c (List.mem_of_mem_head? hc)
  last c hc := h.solid c (List.mem_of_mem_getLast? hc)

/-- What stands between two words does not matter. -/
lemma IsWord.trimmed_append {w w' : List Char} (h : IsWord w) (h' : IsWord w') (cs : List Char) :
    Trimmed (w ++ cs ++ w') where
  nonempty := by simp [h.nonempty]
  head c hc := by
    rw [List.append_assoc, List.head?_append_of_ne_nil _ h.nonempty] at hc
    exact h.trimmed.head c hc
  last c hc := by
    rw [List.getLast?_append_of_ne_nil _ h'.nonempty] at hc
    exact h'.trimmed.last c hc

lemma dropWhile_isBlank_append {before cs : List Char} (hb : AllBlank before)
    (hc : ∀ c ∈ cs.head?, isBlank c = false) : (before ++ cs).dropWhile isBlank = cs := by
  rw [List.dropWhile_append_of_pos hb]
  cases cs with
  | nil => rfl
  | cons c cs => exact List.dropWhile_cons_of_neg (by simp [hc c rfl])

/-- Trimming leaves what stands between the blanks at both ends. -/
lemma trim_append {before cs after : List Char} (hb : AllBlank before) (hc : Trimmed cs)
    (ha : AllBlank after) : trim (before ++ cs ++ after) = cs := by
  have hfront : (before ++ cs ++ after).dropWhile isBlank = cs ++ after := by
    rw [List.append_assoc]
    apply dropWhile_isBlank_append hb
    rw [List.head?_append_of_ne_nil _ hc.nonempty]
    exact hc.head
  have hback : (after.reverse ++ cs.reverse).dropWhile isBlank = cs.reverse := by
    apply dropWhile_isBlank_append
    · intro c h
      exact ha c (List.mem_reverse.mp h)
    · rw [List.head?_reverse]
      exact hc.last
  rw [trim, hfront, List.reverse_append, hback, List.reverse_reverse]

end Text

namespace Instruction

lemma toList_text_of_none {i : Instruction} (h : i.operand? = none) :
    i.text.toList = i.opcode.mnemonic.toList := by
  simp only [text, h]

lemma toList_text_of_some {i : Instruction} {v : Word} (h : i.operand? = some v) :
    i.text.toList = i.opcode.mnemonic.toList ++ [' '] ++ signedDecimal v.toInt := by
  simp only [text, h, wordText, String.toList_append, String.toList_ofList]
  rfl

lemma trimmed_text (i : Instruction) : Trimmed i.text.toList := by
  cases h : i.operand? with
  | none =>
    rw [toList_text_of_none h]
    exact (isWord_mnemonic _).trimmed
  | some v =>
    rw [toList_text_of_some h]
    exact (isWord_mnemonic _).trimmed_append (numeral_signedDecimal _).isWord [' ']

lemma plain_mnemonic (op : Opcode) : Source.Plain op.mnemonic.toList := by
  cases op <;> exact Source.plain_of_all (by decide)

/-- What holds of the characters of mnemonics and numerals and of a space holds of all characters of an
instruction. -/
lemma forall_mem_text {P : Char → Prop} (i : Instruction)
    (hname : ∀ op : Opcode, ∀ c ∈ op.mnemonic.toList, P c) (hspace : P ' ')
    (hnumeral : ∀ cs v, Numeral cs v → ∀ c ∈ cs, P c) : ∀ c ∈ i.text.toList, P c := by
  cases h : i.operand? with
  | none =>
    rw [toList_text_of_none h]
    exact hname i.opcode
  | some v =>
    rw [toList_text_of_some h, List.forall_mem_append, List.forall_mem_append, List.forall_mem_singleton]
    exact ⟨⟨hname i.opcode,hspace⟩,hnumeral _ _ (numeral_signedDecimal _)⟩

lemma plain_text (i : Instruction) : Source.Plain i.text.toList :=
  i.forall_mem_text plain_mnemonic (by decide) fun _ _ h => h.isPlain

/-- The canonical text spells its instruction. -/
theorem spells_text (i : Instruction) : Spells i.text.toList i := by
  have hnil : AllBlank [] := by simp [AllBlank]
  cases h : i.operand? with
  | none =>
    have hs := Spells.bare hnil h hnil
    rwa [List.nil_append, List.append_nil, ← toList_text_of_none h] at hs
  | some v =>
    have hgap : AllBlank [' '] := List.forall_mem_singleton.mpr (by decide)
    have hs := Spells.operand hnil (.mnemonic i.opcode) hgap (List.cons_ne_nil _ _)
      (numeral_signedDecimal v.toInt) (inWord_toInt v) (by rw [h, v.ofInt_toInt]) hnil
    rwa [List.nil_append, List.append_nil, ← List.append_assoc, ← toList_text_of_some h] at hs

end Instruction

/-! ### Loading -/

namespace Source

lemma stripComment_plain_append {cs : List Char} (h : Plain cs) (rest : List Char) :
    stripComment (cs ++ rest) = cs ++ stripComment rest := by
  induction cs with
  | nil => rfl
  | cons c cs ih =>
    obtain ⟨⟨_,hhash,hslash⟩,hcs⟩ := List.forall_mem_cons.mp h
    rw [List.cons_append, stripComment, ih hcs]
    · rfl
    · exact hhash
    · intro _ hc _
      exact hslash hc

lemma stripComment_comment (c : Option Comment) : stripComment (c.elim [] Comment.chars) = [] := by
  rcases c with _ | ⟨_ | _,text,_⟩ <;> rfl

/-- What a line holds is the instruction that it was laid out for. -/
theorem content_line (l : Layout) (i : Instruction) : content (l.line i) = i.text.toList := by
  have hplain : Plain (l.before.chars ++ i.text.toList ++ l.after.chars) :=
    (l.before.plain.append i.plain_text).append l.after.plain
  rw [content, Layout.line, stripComment_plain_append hplain, stripComment_comment, List.append_nil,
    trim_append l.before.blank i.trimmed_text l.after.blank]

lemma Comment.newline_not_mem (c : Comment) : '\n' ∉ c.chars := by
  have h := c.oneLine
  cases hm : c.marker <;> simp [chars, hm, Marker.chars, h]

lemma newline_not_mem_line (l : Layout) (i : Instruction) : '\n' ∉ l.line i := by
  have hcomment : '\n' ∉ l.comment.elim [] Comment.chars := by
    cases l.comment with
    | none => exact List.not_mem_nil
    | some c => exact c.newline_not_mem
  simp only [Layout.line, List.mem_append, not_or]
  exact ⟨⟨⟨l.before.oneLine,fun h => (i.plain_text _ h).1 rfl⟩,l.after.oneLine⟩,hcomment⟩

lemma lines_intercalate {ls : List (List Char)} (h : ∀ l ∈ ls, '\n' ∉ l) (hne : ls ≠ []) :
    lines (List.intercalate ['\n'] ls) = ls := by
  rw [lines, splitWhere_eq_splitOnP]
  exact List.splitOn_intercalate '\n' h hne

/-- Loading leaves the canonical texts. -/
theorem instructionLines_written (is : List (Instruction × Layout)) :
    instructionLines (written is) = is.map fun x => x.1.text := by
  have hcontents : contents (written is).toList = is.map fun x => x.1.text.toList := by
    rw [written, String.toList_ofList, contents]
    by_cases hnil : is = []
    · subst hnil
      rfl
    · rw [lines_intercalate _ (by simpa using hnil), List.map_map, List.filter_eq_self.mpr]
      · simp only [Function.comp_def, content_line]
      · simp only [List.mem_map, Function.comp_apply, content_line]
        rintro _ ⟨x,_,rfl⟩
        simpa using x.1.trimmed_text.nonempty
      · simp only [List.mem_map]
        rintro _ ⟨x,_,rfl⟩
        exact newline_not_mem_line x.2 x.1
  rw [instructionLines, hcontents, List.map_map]
  simp only [Function.comp_def, String.ofList_toList]

end Source

/-! ### Reading back -/

namespace Program

/-- Lines that each read as an instruction, wherever they stand, read as the program of these. -/
lemma decode_of_forall₂ {lines : List String} {is : List Instruction}
    (h : List.Forall₂ (fun line i => ∀ position, Instruction.decode line position = .ok i) lines is) :
    decode lines = .ok (ofList is) := by
  have hmap : ∀ start, (lines.zipIdx start).mapM (fun line => Instruction.decode line.1 line.2) = .ok is := by
    induction h with
    | nil => exact fun _ => rfl
    | cons hi _ ih =>
      intro start
      rw [List.zipIdx_cons, List.mapM_cons, hi, ih]
      rfl
  rw [decode, hmap 0]

lemma toList_foldl_push (p : Program) (is : List Instruction) :
    (is.foldl push p).toList = p.toList ++ is := by
  induction is generalizing p with
  | nil => simp
  | cons i is ih => rw [List.foldl_cons, ih, toList_push, List.append_assoc, List.singleton_append]

/-- Adding instructions one by one builds the program that holds them. -/
lemma foldl_push_empty (is : List Instruction) : is.foldl push empty = ofList is := by
  rw [← ofList_toList (is.foldl push empty), toList_foldl_push]
  rfl

/-- Source text in any layout loads as the canonical texts of its instructions, and these read as the
program built from the instructions. -/
theorem decode_written (is : List (Instruction × Source.Layout)) :
    Source.instructionLines (Source.written is) = is.map (fun x => x.1.text) ∧
    decode (Source.instructionLines (Source.written is)) = .ok ((is.map Prod.fst).foldl push empty) := by
  have hlines := Source.instructionLines_written is
  refine ⟨hlines,?_⟩
  rw [hlines, foldl_push_empty]
  apply decode_of_forall₂
  rw [List.forall₂_map_left_iff, List.forall₂_map_right_iff, List.forall₂_same]
  intro x _ position
  exact Instruction.decode_eq_ok_iff.mpr x.1.spells_text

example : Source.instructionLines "\t iconst -2147483648# // #x\nireturn// 1" =
    ["iconst -2147483648", "ireturn"] := by decide

end Program
end StackMachine
