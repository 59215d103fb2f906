import StackMachine.Instruction.Reader
import StackMachine.Proofs.Numeral
import StackMachine.Proofs.Words

/-! The grammar of a line. A line is read exactly if it spells an instruction: blanks, a mnemonic, for an
operation with an operand blanks and a numeral, and blanks again. What is said of any other line is the
first thing that is wrong with it. -/
namespace StackMachine

namespace Text

lemma isBlank_of_isDigit {c : Char} (h : isDigit c = true) : isBlank c = false := by
  have hc : 48 ≤ c.toNat ∧ c.toNat ≤ 57 := by
    rw [isDigit, Bool.and_eq_true, decide_eq_true_iff, decide_eq_true_iff, Char.le_def, Char.le_def] at h
    exact h
  simp only [isBlank, blankRanges, List.any_cons, List.any_nil, Bool.or_false, Bool.or_eq_false_iff,
    Bool.and_eq_false_iff, decide_eq_false_iff_not]
  omega

lemma isWord_of_all {w : List Char} (hne : w ≠ []) (h : w.all (fun c => !isBlank c) = true) : IsWord w :=
  ⟨hne,fun c hc => by simpa using List.all_eq_true.mp h c hc⟩

lemma Digits.isWord {ds : List Char} (h : Digits ds) : IsWord ds :=
  ⟨h.nonempty,fun c hc => isBlank_of_isDigit (h.all c hc)⟩

lemma IsWord.cons {c : Char} {w : List Char} (hc : isBlank c = false) (h : IsWord w) : IsWord (c :: w) :=
  ⟨List.cons_ne_nil c w,List.forall_mem_cons.mpr ⟨hc,h.solid⟩⟩

lemma Numeral.isWord {cs : List Char} {v : Int} (h : Numeral cs v) : IsWord cs := by
  cases h with
  | plain digits => exact digits.isWord
  | plus digits => exact digits.isWord.cons (by decide)
  | minus digits => exact digits.isWord.cons (by decide)

end Text

namespace Instruction

open Text

/-- The words that name an operation. -/
inductive Names : String → Opcode → Prop
  | mnemonic (op : Opcode) : Names op.mnemonic op
  | bipush : Names "bipush" .pushConstant

/-- The lines that are read as an instruction. -/
inductive Spells : List Char → Instruction → Prop
  | bare {before after : List Char} {i : Instruction} (opening : AllBlank before)
      (operand : i.operand? = none) (closing : AllBlank after) :
      Spells (before ++ i.opcode.mnemonic.toList ++ after) i
  | operand {before gap numeral after : List Char} {word : String} {v : Int} {i : Instruction}
      (opening : AllBlank before) (names : Names word i.opcode) (blank : AllBlank gap) (apart : gap ≠ [])
      (integer : Numeral numeral v) (inWord : InWord v) (operand : i.operand? = some (Int32.ofInt v))
      (closing : AllBlank after) :
      Spells (before ++ word.toList ++ (gap ++ numeral ++ after)) i

/-- What may stand behind a mnemonic of `op`, with the operand that it gives. -/
inductive Operands (op : Opcode) : List (List Char) → Option Word → Prop
  | none (needs : op.hasOperand = false) : Operands op [] none
  | one {numeral : List Char} {v : Int} (needs : op.hasOperand = true) (integer : Numeral numeral v)
      (inWord : InWord v) : Operands op [numeral] (some (Int32.ofInt v))

/-- What is wrong with the words behind a mnemonic of `op`. A missing operand leaves nothing else to
say, and a word too many is only blamed behind an operand that is good. -/
inductive Malformed (op : Opcode) : List (List Char) → OperandError → Prop
  | missing (needs : op.hasOperand = true) : Malformed op [] .missing
  | notInteger {token : List Char} {rest : List (List Char)} {cause : NumeralError}
      (needs : op.hasOperand = true) (bad : ∀ v, Numeral token v → ¬ InWord v)
      (why : readWord token = .error cause) :
      Malformed op (token :: rest) (.notInteger (String.ofList token) cause)
  | surplus {token : List Char} {rest : List (List Char)} (needs : op.hasOperand = false) :
      Malformed op (token :: rest) (.unexpected (String.ofList token))
  | surplusBehindOperand {numeral token : List Char} {rest : List (List Char)} {v : Int}
      (needs : op.hasOperand = true) (integer : Numeral numeral v) (inWord : InWord v) :
      Malformed op (numeral :: token :: rest) (.unexpected (String.ofList token))

/-- What is wrong with a line of these words. -/
inductive Rejects (position : Nat) : List (List Char) → DecodeError → Prop
  | empty : Rejects position [] (.emptyInstruction position)
  | unknown {word : String} {rest : List (List Char)} (unknown : ∀ op, ¬ Names word op) :
      Rejects position (word.toList :: rest) (.unknownOpcode word position)
  | malformed {word : String} {op : Opcode} {rest : List (List Char)} {cause : OperandError}
      (names : Names word op) (malformed : Malformed op rest cause) :
      Rejects position (word.toList :: rest) (.malformedOperand word position cause)

/-! ### Mnemonics -/

lemma ofMnemonic?_eq_some_iff {word : String} {op : Opcode} :
    Opcode.ofMnemonic? word = some op ↔ op.mnemonic = word := by
  constructor
  · intro h
    exact eq_of_beq (List.find?_some (p := fun op : Opcode => op.mnemonic == word) h)
  · rintro rfl
    exact Opcode.ofMnemonic?_mnemonic op

lemma opcodeOfWord?_eq_some_iff {word : String} {op : Opcode} :
    opcodeOfWord? word = some op ↔ Names word op := by
  constructor
  · intro h
    unfold opcodeOfWord? at h
    split at h
    next hw =>
      obtain rfl := Option.some.inj h
      exact ofMnemonic?_eq_some_iff.mp hw ▸ .mnemonic _
    next =>
      split at h
      next hw =>
        obtain rfl := Option.some.inj h
        exact hw ▸ .bipush
      next => cases h
  · rintro (_ | _)
    · simp [opcodeOfWord?]
    · decide

lemma opcodeOfWord?_eq_none_iff {word : String} :
    opcodeOfWord? word = none ↔ ∀ op, ¬ Names word op := by
  simp only [← opcodeOfWord?_eq_some_iff, Option.eq_none_iff_forall_ne_some, ne_eq]

lemma isWord_mnemonic (op : Opcode) : IsWord op.mnemonic.toList := by
  cases op <;> exact isWord_of_all (by decide) (by decide)

lemma Names.isWord {word : String} {op : Opcode} (h : Names word op) : IsWord word.toList := by
  cases h with
  | mnemonic => exact isWord_mnemonic op
  | bipush => exact isWord_of_all (by decide) (by decide)

/-- An operation without operand has one name. -/
lemma Names.eq_mnemonic {word : String} {op : Opcode} (h : Names word op) (needs : op.hasOperand = false) :
    word = op.mnemonic := by
  cases h with
  | mnemonic => rfl
  | bipush => cases needs

/-! ### Operands -/

lemma exists_instruction {op : Opcode} {operand : Option Word} (h : op.hasOperand = operand.isSome) :
    ∃ i : Instruction, i.opcode = op ∧ i.operand? = operand := by
  have hsome := isSome_ofParts? op operand
  rw [h, beq_self_eq_true] at hsome
  obtain ⟨i,hi⟩ := Option.isSome_iff_exists.mp hsome
  refine ⟨i,?_⟩
  cases op <;> cases operand <;> cases hi <;> exact ⟨rfl,rfl⟩

lemma Operands.hasOperand_eq {op : Opcode} {rest : List (List Char)} {operand : Option Word}
    (h : Operands op rest operand) : op.hasOperand = operand.isSome := by
  cases h with
  | none needs => exact needs
  | one needs integer inWord => exact needs

lemma readWord_of_numeral {numeral : List Char} {v : Int} (integer : Numeral numeral v)
    (inWord : InWord v) : readWord numeral = .ok (Int32.ofInt v) :=
  readWord_eq_ok_iff.mpr ⟨v,integer,inWord,rfl⟩

lemma readParts_of_operands {i : Instruction} {rest : List (List Char)}
    (h : Operands i.opcode rest i.operand?) : readParts i.opcode rest = .ok i := by
  have hparts := ofParts?_opcode_operand? i
  generalize i.opcode = op, i.operand? = operand at h hparts
  unfold readParts readOperand
  cases h with
  | none needs => simp [needs, hparts]
  | one needs integer inWord => simp [needs, readWord_of_numeral integer inWord, hparts]

lemma readParts_of_malformed {op : Opcode} {rest : List (List Char)} {cause : OperandError}
    (h : Malformed op rest cause) : readParts op rest = .error cause := by
  unfold readParts readOperand
  cases h with
  | missing needs => simp [needs]
  | notInteger needs bad why => simp [needs, why]
  | surplus needs => simp [needs]
  | surplusBehindOperand needs integer inWord => simp [needs, readWord_of_numeral integer inWord]

/-- No other reason begins like that of a mismatch. -/
lemma Malformed.reason_ne {op : Opcode} {rest : List (List Char)} {cause : OperandError}
    (h : Malformed op rest cause) : cause.reason ≠ OperandError.mismatch.reason := by
  intro he
  have hhead : cause.reason.toList.head? = some 'o' := by
    rw [he]
    decide
  unfold OperandError.reason at hhead
  cases h with
  | missing => revert hhead; decide
  | notInteger =>
    obtain ⟨c,hc,hne⟩ : ∃ c, "'".toList.head? = some c ∧ c ≠ 'o' := ⟨_,rfl,by decide⟩
    simp only [String.toList_append, List.head?_append, hc, Option.some_or, Option.some.injEq] at hhead
    exact hne hhead
  | surplus | surplusBehindOperand =>
    have hu : "unexpected token '".toList.head? = some 'u' := by decide
    simp only [String.toList_append, List.head?_append, hu] at hhead
    cases hhead

/-- The words behind a mnemonic are good or malformed; there is no third way, and so no mismatch. -/
theorem operands_or_malformed (op : Opcode) (rest : List (List Char)) :
    (∃ operand, Operands op rest operand) ∨ ∃ cause, Malformed op rest cause := by
  cases needs : op.hasOperand with
  | false =>
    cases rest with
    | nil => exact .inl ⟨_,.none needs⟩
    | cons token rest => exact .inr ⟨_,.surplus needs⟩
  | true =>
    cases rest with
    | nil => exact .inr ⟨_,.missing needs⟩
    | cons token rest =>
      cases hw : readWord token with
      | error cause =>
        refine .inr ⟨_,.notInteger needs ?_ hw⟩
        intro v integer inWord
        rw [readWord_of_numeral integer inWord] at hw
        cases hw
      | ok w =>
        obtain ⟨v,integer,inWord,rfl⟩ := readWord_eq_ok_iff.mp hw
        cases rest with
        | nil => exact .inl ⟨_,.one needs integer inWord⟩
        | cons surplus rest => exact .inr ⟨_,.surplusBehindOperand needs integer inWord⟩

theorem readParts_eq_ok_iff {op : Opcode} {rest : List (List Char)} {i : Instruction} :
    readParts op rest = .ok i ↔ i.opcode = op ∧ Operands op rest i.operand? := by
  constructor
  · intro h
    obtain ⟨operand,ho⟩ | ⟨cause,hm⟩ := operands_or_malformed op rest
    · obtain ⟨j,rfl,rfl⟩ := exists_instruction ho.hasOperand_eq
      rw [readParts_of_operands ho] at h
      obtain rfl := Except.ok.inj h
      exact ⟨rfl,ho⟩
    · rw [readParts_of_malformed hm] at h
      cases h
  · rintro ⟨rfl,ho⟩
    exact readParts_of_operands ho

theorem readParts_eq_error_iff {op : Opcode} {rest : List (List Char)} {cause : OperandError} :
    readParts op rest = .error cause ↔ Malformed op rest cause := by
  constructor
  · intro h
    obtain ⟨operand,ho⟩ | ⟨cause',hm⟩ := operands_or_malformed op rest
    · obtain ⟨j,rfl,rfl⟩ := exists_instruction ho.hasOperand_eq
      rw [readParts_of_operands ho] at h
      cases h
    · rw [readParts_of_malformed hm] at h
      exact Except.error.inj h ▸ hm
  · exact readParts_of_malformed

/-! ### Lines -/

section

variable {position : Nat} {ws : List (List Char)} {word : String} {cause : OperandError} {e : DecodeError}

lemma Rejects.position_eq (h : Rejects position ws e) : e.position = position := by
  cases h <;> rfl

lemma rejects_empty_iff : Rejects position ws (.emptyInstruction position) ↔ ws = [] := by
  constructor
  · rintro ⟨⟩
    rfl
  · rintro rfl
    exact .empty

lemma rejects_unknown_iff : Rejects position ws (.unknownOpcode word position) ↔
    ∃ rest, ws = word.toList :: rest ∧ ∀ op, ¬ Names word op := by
  constructor
  · rintro ⟨⟩
    exact ⟨_,rfl,‹_›⟩
  · rintro ⟨rest,rfl,unknown⟩
    exact .unknown unknown

lemma rejects_malformed_iff : Rejects position ws (.malformedOperand word position cause) ↔
    ∃ op rest, ws = word.toList :: rest ∧ Names word op ∧ Malformed op rest cause := by
  constructor
  · rintro ⟨⟩
    exact ⟨_,_,rfl,‹_›,‹_›⟩
  · rintro ⟨op,rest,rfl,names,malformed⟩
    exact .malformed names malformed

end

lemma decodeWords_eq_ok_iff {position : Nat} {ws : List (List Char)} {i : Instruction} :
    decodeWords position ws = .ok i ↔
      ∃ word rest, ws = String.toList word :: rest ∧ Names word i.opcode ∧
        Operands i.opcode rest i.operand? := by
  constructor
  · intro h
    cases ws with
    | nil => cases h
    | cons w rest =>
      refine ⟨String.ofList w,rest,by rw [String.toList_ofList],?_⟩
      simp only [decodeWords] at h
      split at h
      next => cases h
      next op hop =>
        split at h
        next j hj =>
          obtain rfl := Except.ok.inj h
          obtain ⟨rfl,ho⟩ := readParts_eq_ok_iff.mp hj
          exact ⟨opcodeOfWord?_eq_some_iff.mp hop,ho⟩
        next => cases h
  · rintro ⟨word,rest,rfl,hn,ho⟩
    simp only [decodeWords, String.ofList_toList, opcodeOfWord?_eq_some_iff.mpr hn,
      readParts_of_operands ho]

lemma decodeWords_eq_error_iff {position : Nat} {ws : List (List Char)} {e : DecodeError} :
    decodeWords position ws = .error e ↔ Rejects position ws e := by
  constructor
  · intro h
    cases ws with
    | nil =>
      obtain rfl := Except.error.inj h
      exact .empty
    | cons w rest =>
      rw [← String.toList_ofList (l := w)]
      simp only [decodeWords] at h
      split at h
      next hop =>
        obtain rfl := Except.error.inj h
        exact .unknown (opcodeOfWord?_eq_none_iff.mp hop)
      next op hop =>
        split at h
        next => cases h
        next cause hc =>
          obtain rfl := Except.error.inj h
          exact .malformed (opcodeOfWord?_eq_some_iff.mp hop) (readParts_eq_error_iff.mp hc)
  · rintro (_ | unknown | ⟨names,malformed⟩)
    · rfl
    · simp only [decodeWords, String.ofList_toList, opcodeOfWord?_eq_none_iff.mpr unknown]
    · simp only [decodeWords, String.ofList_toList, opcodeOfWord?_eq_some_iff.mpr names,
        readParts_of_malformed malformed]

/-- A line spells an instruction exactly if its words are a name and the operands that go with it. -/
lemma spells_iff {cs : List Char} {i : Instruction} :
    Spells cs i ↔ ∃ word rest, Consists cs (String.toList word :: rest) ∧ Names word i.opcode ∧
      Operands i.opcode rest i.operand? := by
  have hneeds := isSome_operand? i
  constructor
  · rintro (⟨opening,operand,closing⟩ |
      ⟨opening,names,blank,apart,integer,inWord,operand,closing⟩)
    · rw [operand] at hneeds ⊢
      exact ⟨_,[],.word opening (isWord_mnemonic _) closing.breaks (.blank closing),.mnemonic _,
        .none hneeds.symm⟩
    · rw [operand] at hneeds ⊢
      refine ⟨_,_,.word opening names.isWord ?_ (.word blank integer.isWord closing.breaks
        (.blank closing)),names,.one hneeds.symm integer inWord⟩
      obtain ⟨c,gap,rfl⟩ := List.exists_cons_of_ne_nil apart
      intro d hd
      obtain rfl := Option.mem_some.mp hd
      exact blank _ List.mem_cons_self
  · rintro ⟨word,rest,consists,names,operands⟩
    generalize ho : i.operand? = operand at operands
    cases operands with
    | none needs =>
      obtain rfl := names.eq_mnemonic needs
      cases consists with
      | word opening _ _ more =>
        cases more with
        | blank closing => exact .bare opening ho closing
    | one needs integer inWord =>
      cases consists with
      | word opening _ breaks more =>
        cases more with
        | @word gap _ _ _ blank isWord _ more =>
          cases more with
          | blank closing =>
            refine .operand opening names blank ?_ integer inWord ho closing
            -- Without a gap the numeral itself would begin with a blank.
            rintro rfl
            obtain ⟨c,cs,rfl⟩ := List.exists_cons_of_ne_nil isWord.nonempty
            have hblank := breaks c rfl
            rw [isWord.solid c List.mem_cons_self] at hblank
            cases hblank

theorem decode_eq_ok_iff {line : String} {position : Nat} {i : Instruction} :
    decode line position = .ok i ↔ Spells line.toList i := by
  rw [decode, decodeWords_eq_ok_iff, spells_iff]
  simp only [words_eq_iff]

theorem decode_eq_error_iff {line : String} {position : Nat} {e : DecodeError} :
    decode line position = .error e ↔ Rejects position (words line.toList) e :=
  decodeWords_eq_error_iff

/-- A line is read as an instruction exactly if it spells it. Of any other line it is said, at its
position, that it is blank, or that its first word names no operation, or else what is wrong behind it;
an operand never turns out not to match its operation. -/
theorem decode_exact (line : String) (position : Nat) :
    (∀ i, decode line position = .ok i ↔ Spells line.toList i) ∧
    (∀ e, decode line position = .error e → e.position = position) ∧
    (decode line position = .error (.emptyInstruction position) ↔ AllBlank line.toList) ∧
    (∀ word, decode line position = .error (.unknownOpcode word position) ↔
      ∃ rest, Consists line.toList (word.toList :: rest) ∧ ∀ op, ¬ Names word op) ∧
    (∀ word cause, decode line position = .error (.malformedOperand word position cause) ↔
      ∃ op rest, Consists line.toList (word.toList :: rest) ∧ Names word op ∧ Malformed op rest cause) ∧
    ∀ word cause, decode line position = .error (.malformedOperand word position cause) →
      cause.reason ≠ OperandError.mismatch.reason := by
  refine ⟨fun i => decode_eq_ok_iff,fun e h => (decode_eq_error_iff.mp h).position_eq,?_,?_,?_,?_⟩
  · rw [decode_eq_error_iff, rejects_empty_iff, words_eq_iff, consists_nil_iff]
  · intro word
    simp only [decode_eq_error_iff, rejects_unknown_iff, words_eq_iff]
  · intro word cause
    simp only [decode_eq_error_iff, rejects_malformed_iff, words_eq_iff]
  · intro word cause h
    obtain ⟨op,rest,_,_,hm⟩ := rejects_malformed_iff.mp (decode_eq_error_iff.mp h)
    exact hm.reason_ne

/-- Of an operand that is no integer and a word too many, the first is reported. -/
theorem decode_exact_two_faults :
    decode "iload x y" 4 = .error (.malformedOperand "iload" 4 (.notInteger "x" .invalidDigit)) ∧
    (DecodeError.malformedOperand "iload" 4 (.notInteger "x" .invalidDigit)).position = 4 ∧
    (∃ op rest, Consists "iload x y".toList ("iload".toList :: rest) ∧ Names "iload" op ∧
      Malformed op rest (.notInteger "x" .invalidDigit)) ∧
    (OperandError.notInteger "x" .invalidDigit).reason ≠ OperandError.mismatch.reason := by
  have h : decode "iload x y" 4 =
      .error (.malformedOperand "iload" 4 (.notInteger "x" .invalidDigit)) := rfl
  obtain ⟨_,hposition,_,_,hmalformed,hreason⟩ := decode_exact "iload x y" 4
  exact ⟨h,hposition _ h,(hmalformed _ _).mp h,hreason _ _ h⟩

end Instruction
end StackMachine
