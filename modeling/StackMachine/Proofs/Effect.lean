import StackMachine.Proofs.History

/-! What a single step may change. A step that fails leaves the frame alone or takes its operands off and
does nothing else; a step that goes through works on the top of the stack and on at most one local. -/
namespace StackMachine

/-- The frame `f` is `g` with `n` more values on top of its stack. -/
def Frame.Exceeds (f : Frame) (n : Nat) (g : Frame) : Prop :=
  ∃ taken : List Word, taken.length = n ∧ f = { g with stack := taken ++ g.stack }

lemma Frame.exceeds_consume {f : Frame} {rest : List Word} (i : Instruction) (operands : List Word)
    (hs : f.stack = operands ++ rest) (hi : operands.length = i.opcode.stackInputs) :
    f.Exceeds i.opcode.stackInputs (f.consume i) := by
  rw [consume_eq i operands hs hi]
  refine ⟨operands,hi,?_⟩
  simp only [← hs]

/-- Control goes to a target only when the operands are there. -/
lemma GoesTo.exceeds_consume {f : Frame} {target : Word} {i : Instruction} (h : GoesTo f target i) :
    f.Exceeds i.opcode.stackInputs (f.consume i) := by
  cases h with
  | jump => exact Frame.exceeds_consume (.jump target) [] rfl rfl
  | @equal a rest operands => exact Frame.exceeds_consume (.branchIfEqual target) [a,a] operands rfl
  | @notEqual a b rest operands =>
    exact Frame.exceeds_consume (.branchIfNotEqual target) [a,b] operands rfl

/-- What the instruction `i` may make of the frame `f`, in a program of `length` instructions, when it leaves
the frame `g` and gives `result`. -/
structure Confined (length : Nat) (i : Instruction) (f g : Frame) (result : Except Fault Flow) : Prop where
  ip_eq : g.ip = f.ip
  underflow : ∀ required available ip,
    result = .error (.stackUnderflow required available ip) → g = f
  slotOutside : ∀ index limit ip,
    result = .error (.indexOutOfRange .localSlot index limit ip) → g = f
  divisionByZero : ∀ ip, result = .error (.divisionByZero ip) → f.Exceeds 2 g
  targetOutside : ∀ index limit ip,
    result = .error (.indexOutOfRange .jumpTarget index limit ip) → f.Exceeds i.opcode.stackInputs g
  /-- There is no other way to fail. -/
  decoded : ∀ cause, result ≠ .error (.undecodable cause)
  stack : ∀ flow, result = .ok flow → ∃ operands below pushed : List Word,
    operands.length = i.opcode.stackInputs ∧ pushed.length ≤ 1 ∧
      f.stack = operands ++ below ∧ g.stack = pushed ++ below
  slots : g.locals.size = f.locals.size
  locals : ∀ slot : Nat, g.locals[slot]? ≠ f.locals[slot]? →
    result = .ok .next ∧ ∃ index, i = .storeLocal index ∧ index.toInt = slot
  jump_le : ∀ n, result = .ok (.jump n) → n ≤ length

lemma Opcode.stackOutputs_le_one (op : Opcode) : op.stackOutputs ≤ 1 := by cases op <;> decide

namespace Steps

variable {length : Nat} {f g : Frame} {i : Instruction} {result : Except Fault Flow}

/-- The stack below the operands stays, and at most one value is put on it. -/
lemma exists_pushed {flow : Flow} (h : Steps length f i g (.ok flow)) :
    ∃ operands below pushed : List Word, operands.length = i.opcode.stackInputs ∧ pushed.length ≤ 1 ∧
      f.stack = operands ++ below ∧ g.stack = pushed ++ below := by
  obtain ⟨pushed,hpushed,hstack⟩ := h.stack_eq
  refine ⟨f.stack.take i.opcode.stackInputs,f.stack.drop i.opcode.stackInputs,pushed,?_,?_,?_,hstack⟩
  · exact List.length_take_of_le h.stackInputs_le
  · rw [hpushed]
    exact i.opcode.stackOutputs_le_one
  · rw [List.take_append_drop]

/-- A local that changes is the one that a store names. -/
lemma exists_store (h : Steps length f i g result) {slot : Nat}
    (hslot : g.locals[slot]? ≠ f.locals[slot]?) :
    result = .ok .next ∧ ∃ index, i = .storeLocal index ∧ index.toInt = slot := by
  obtain ⟨hlocals,_⟩ | ⟨index,v,rest,j,rfl,rfl,_,hindex,_,hlocals⟩ := h.locals_cases
  · exact absurd (congrArg (·[slot]?) hlocals) hslot
  · refine ⟨rfl,index,rfl,?_⟩
    by_cases hj : j = slot
    · rw [hindex, hj]
    · rw [hlocals, Array.getElem?_setIfInBounds_ne hj] at hslot
      exact absurd rfl hslot

lemma eq_of_underflow {required available ip : Nat}
    (h : Steps length f i g (.error (.stackUnderflow required available ip))) : g = f := by
  cases h with
  | underflow => rfl

lemma eq_of_slotOutside {index : Word} {limit ip : Nat}
    (h : Steps length f i g (.error (.indexOutOfRange .localSlot index limit ip))) : g = f := by
  cases h with
  | loadOutside => rfl
  | storeOutside => rfl

lemma exceeds_of_divisionByZero {ip : Nat} (h : Steps length f i g (.error (.divisionByZero ip))) :
    f.Exceeds 2 g := by
  cases h with
  | @divideByZero a b rest operands => exact Frame.exceeds_consume .divide [a,b] operands rfl

lemma exceeds_of_targetOutside {index : Word} {limit ip : Nat}
    (h : Steps length f i g (.error (.indexOutOfRange .jumpTarget index limit ip))) :
    f.Exceeds i.opcode.stackInputs g := by
  cases h with
  | goOutside goes => exact goes.exceeds_consume

end Steps

/-- Whatever the frame, a step has no other effect than these. -/
theorem confined_step (length : Nat) (i : Instruction) (f : Frame) :
    Confined length i f (step length i f).1 (step length i f).2 where
  ip_eq := ip_step length i f
  underflow _ _ _ h := (steps_of_result h).eq_of_underflow
  slotOutside _ _ _ h := (steps_of_result h).eq_of_slotOutside
  divisionByZero _ h := (steps_of_result h).exceeds_of_divisionByZero
  targetOutside _ _ _ h := (steps_of_result h).exceeds_of_targetOutside
  decoded _ h := by cases step_error_iff.mp h
  stack _ h := (steps_of_result h).exists_pushed
  slots := size_locals_step length i f
  locals _ h := (steps_step length i f).exists_store h
  jump_le _ h := step_jump_le h

/-- Division takes its operands before it looks at them, a store looks at its slot before it takes any. -/
example : step 1 .divide ⟨[5, 0, 7], #[], 0⟩ = (⟨[7], #[], 0⟩, .error (.divisionByZero 0)) ∧
    step 1 (.storeLocal 2) ⟨[5, 0, 7], #[1], 0⟩ =
      (⟨[5, 0, 7], #[1], 0⟩, .error (.indexOutOfRange .localSlot 2 1 0)) := ⟨rfl,rfl⟩

end StackMachine
