import Mathlib.Tactic.Lemma
import StackMachine.Step

/-! The rules of a step. Each way in which a single instruction can go is one rule, given by the
instruction and the frame alone; the rules describe exactly the function that runs. -/
namespace StackMachine

/-- The arithmetic that cannot fail. -/
def Instruction.arithmetic? : Instruction → Option (Word → Word → Word)
  | .add => some (· + ·)
  | .subtract => some (· - ·)
  | .multiply => some (· * ·)
  | _ => none

/-- The instruction sends control to `target`: a jump, or a branch whose condition holds of the two values
on top. -/
inductive GoesTo (f : Frame) (target : Word) : Instruction → Prop
  | jump : GoesTo f target (.jump target)
  | equal {a : Word} {rest : List Word} (operands : f.stack = a :: a :: rest) :
      GoesTo f target (.branchIfEqual target)
  | notEqual {a b : Word} {rest : List Word} (operands : f.stack = a :: b :: rest) (differ : a ≠ b) :
      GoesTo f target (.branchIfNotEqual target)

/-- The instruction is a branch whose condition fails of the two values on top. -/
inductive FallsThrough (f : Frame) : Instruction → Prop
  | equal {target a b : Word} {rest : List Word} (operands : f.stack = a :: b :: rest) (differ : a ≠ b) :
      FallsThrough f (.branchIfEqual target)
  | notEqual {target a : Word} {rest : List Word} (operands : f.stack = a :: a :: rest) :
      FallsThrough f (.branchIfNotEqual target)

/-- The frame without the operands of `i`. -/
def Frame.consume (f : Frame) (i : Instruction) : Frame :=
  { f with stack := f.stack.drop i.opcode.stackInputs }

namespace Frame

variable (f : Frame) (i : Instruction) (index : Word)

@[simp] theorem ip_consume : (f.consume i).ip = f.ip := rfl

@[simp] theorem locals_consume : (f.consume i).locals = f.locals := rfl

@[simp] theorem consume_loadLocal : f.consume (.loadLocal index) = f := rfl

end Frame

/-- The rules for an instruction that runs in `f`, in a program of `length` instructions. -/
inductive Steps (length : Nat) (f : Frame) : Instruction → Frame → Except Fault Flow → Prop
  | underflow {i : Instruction} (few : f.depth < i.opcode.stackInputs) :
      Steps length f i f (.error (.stackUnderflow i.opcode.stackInputs f.depth f.ip))
  | push (v : Word) : Steps length f (.pushConstant v) (f.push v) (.ok .next)
  | load {index v : Word} {slot : Nat} (inside : slot? index f.locals.size = some slot)
      (value : f.locals[slot]? = some v) : Steps length f (.loadLocal index) (f.push v) (.ok .next)
  | loadOutside {index : Word} (outside : slot? index f.locals.size = none) :
      Steps length f (.loadLocal index) f (.error (.indexOutOfRange .localSlot index f.locals.size f.ip))
  | store {index v : Word} {slot : Nat} {rest : List Word} (operand : f.stack = v :: rest)
      (inside : slot? index f.locals.size = some slot) :
      Steps length f (.storeLocal index) ((f.consume (.storeLocal index)).writeLocal slot v) (.ok .next)
  | storeOutside {index v : Word} {rest : List Word} (operand : f.stack = v :: rest)
      (outside : slot? index f.locals.size = none) :
      Steps length f (.storeLocal index) f (.error (.indexOutOfRange .localSlot index f.locals.size f.ip))
  | arithmetic {i : Instruction} {op : Word → Word → Word} {a b : Word} {rest : List Word}
      (operation : i.arithmetic? = some op) (operands : f.stack = a :: b :: rest) :
      Steps length f i ((f.consume i).push (op a b)) (.ok .next)
  | divide {a b : Word} {rest : List Word} (operands : f.stack = a :: b :: rest) (ha : a ≠ 0) (hb : b ≠ 0) :
      Steps length f .divide ((f.consume .divide).push (a / b)) (.ok .next)
  | divideByZero {a b : Word} {rest : List Word} (operands : f.stack = a :: b :: rest) (zero : a = 0 ∨ b = 0) :
      Steps length f .divide (f.consume .divide) (.error (.divisionByZero f.ip))
  | fallThrough {i : Instruction} (fails : FallsThrough f i) : Steps length f i (f.consume i) (.ok .next)
  | goTo {i : Instruction} {target : Word} {n : Nat} (goes : GoesTo f target i)
      (inside : target? target length = some n) : Steps length f i (f.consume i) (.ok (.jump n))
  | goOutside {i : Instruction} {target : Word} (goes : GoesTo f target i)
      (outside : target? target length = none) :
      Steps length f i (f.consume i) (.error (.indexOutOfRange .jumpTarget target length f.ip))
  | return {v : Word} {rest : List Word} (operand : f.stack = v :: rest) :
      Steps length f .return (f.consume .return) (.ok (.return v))

lemma target?_le {index : Word} {length n : Nat} (h : target? index length = some n) : n ≤ length := by
  have hn := (boundedIndex?_eq_some_iff.mp h).2
  omega

lemma slot?_lt {index : Word} {capacity slot : Nat} (h : slot? index capacity = some slot) :
    slot < capacity := (boundedIndex?_eq_some_iff.mp h).2

lemma exists_operand {f : Frame} (h : 1 ≤ f.depth) : ∃ v rest, f.stack = v :: rest := by
  cases hs : f.stack with
  | nil => simp [Frame.depth, hs] at h
  | cons v rest => exact ⟨v,rest,rfl⟩

lemma exists_operands {f : Frame} (h : 2 ≤ f.depth) : ∃ a b rest, f.stack = a :: b :: rest := by
  obtain ⟨a,s,hs⟩ := exists_operand (f := f) (by omega)
  cases s with
  | nil => simp [Frame.depth, hs] at h
  | cons b rest => exact ⟨a,b,rest,hs⟩

lemma Frame.popN_of_lt {f : Frame} {n : Nat} (few : f.depth < n) : f.popN n = .error (f.underflow n) := by
  rw [popN, ensureDepth, if_pos few]

lemma Frame.popN_of_le {f : Frame} {n : Nat} (enough : n ≤ f.depth) :
    f.popN n = .ok (f.stack.take n, { f with stack := f.stack.drop n }) := by
  rw [popN, ensureDepth, if_neg (Nat.not_lt.mpr enough)]

lemma step_of_depth_lt {length : Nat} {i : Instruction} {f : Frame}
    (few : f.depth < i.opcode.stackInputs) :
    step length i f = (f, .error (.stackUnderflow i.opcode.stackInputs f.depth f.ip)) := by
  unfold step
  rw [Frame.popN_of_lt few]
  cases i <;> rfl

lemma consume_eq {f : Frame} {rest : List Word} (i : Instruction) (operands : List Word)
    (hs : f.stack = operands ++ rest) (hi : operands.length = i.opcode.stackInputs) :
    f.consume i = { f with stack := rest } := by
  simp [Frame.consume, hs, ← hi]

/-- An instruction that has its operands takes them and goes on with the frame without them. -/
lemma popN_stackInputs {f : Frame} {rest : List Word} (i : Instruction) (operands : List Word)
    (hs : f.stack = operands ++ rest) (hi : operands.length = i.opcode.stackInputs) :
    f.popN i.opcode.stackInputs = .ok (operands, f.consume i) := by
  have enough : i.opcode.stackInputs ≤ f.depth := by
    rw [Frame.depth, hs, List.length_append]
    omega
  rw [Frame.popN_of_le enough, Frame.consume, hs, ← hi, List.take_left]

lemma step_arithmetic {length : Nat} {f : Frame} {i : Instruction} {op : Word → Word → Word} {a b : Word}
    {rest : List Word} (operation : i.arithmetic? = some op) (operands : f.stack = a :: b :: rest) :
    step length i f = ((f.consume i).push (op a b), .ok .next) := by
  unfold step
  cases i <;> cases operation <;> rw [popN_stackInputs _ [a,b] operands rfl]

lemma step_of_goesTo {length : Nat} {f : Frame} {i : Instruction} {target : Word} (goes : GoesTo f target i) :
    step length i f = (f.consume i, jumpTo f.ip length target) := by
  unfold step
  cases goes with
  | jump => rfl
  | @equal a rest operands =>
    rw [popN_stackInputs (.branchIfEqual target) [a,a] operands rfl]
    simp [branch]
  | @notEqual a b rest operands differ =>
    rw [popN_stackInputs (.branchIfNotEqual target) [a,b] operands rfl]
    simp [branch, differ]

namespace Steps

variable {length : Nat} {f g : Frame} {i : Instruction} {result : Except Fault Flow}

/-- The rules leave no choice: only what the function gives follows from them. -/
theorem eq_step (h : Steps length f i g result) : step length i f = (g, result) := by
  cases h with
  | underflow few => exact step_of_depth_lt few
  | push v => rfl
  | @load index v slot inside value =>
    unfold step
    rw [popN_stackInputs (.loadLocal index) [] rfl rfl]
    simp [Frame.getLocal, Frame.localSlot, inside, value]
  | @loadOutside index outside =>
    unfold step
    rw [popN_stackInputs (.loadLocal index) [] rfl rfl]
    simp [Frame.getLocal, Frame.localSlot, outside]
  | @store index v slot rest operand inside =>
    unfold step
    rw [popN_stackInputs (.storeLocal index) [v] operand rfl]
    simp [Frame.localSlot, inside]
  | @storeOutside index v rest operand outside =>
    unfold step
    rw [popN_stackInputs (.storeLocal index) [v] operand rfl]
    simp [Frame.localSlot, outside]
  | arithmetic operation operands => exact step_arithmetic operation operands
  | @divide a b rest operands ha hb =>
    unfold step
    rw [popN_stackInputs .divide [a,b] operands rfl]
    simp [divide?, ha, hb]
  | @divideByZero a b rest operands zero =>
    unfold step
    rw [popN_stackInputs .divide [a,b] operands rfl]
    simp [divide?, zero]
  | fallThrough fails =>
    unfold step
    cases fails with
    | @equal target a b rest operands differ =>
      rw [popN_stackInputs (.branchIfEqual target) [a,b] operands rfl]
      simp [branch, differ]
    | @notEqual target a rest operands =>
      rw [popN_stackInputs (.branchIfNotEqual target) [a,a] operands rfl]
      simp [branch]
  | goTo goes inside =>
    rw [step_of_goesTo goes]
    simp [jumpTo, inside]
  | goOutside goes outside =>
    rw [step_of_goesTo goes]
    simp [jumpTo, outside]
  | @«return» v rest operand =>
    unfold step
    rw [popN_stackInputs .return [v] operand rfl]

lemma of_goesTo (length : Nat) {target : Word} (goes : GoesTo f target i) :
    ∃ g result, Steps length f i g result := by
  cases ht : target? target length with
  | none => exact ⟨_,_,.goOutside goes ht⟩
  | some n => exact ⟨_,_,.goTo goes ht⟩

/-- There is always a rule that applies. -/
theorem total (length : Nat) (f : Frame) (i : Instruction) : ∃ g result, Steps length f i g result := by
  by_cases few : f.depth < i.opcode.stackInputs
  · exact ⟨_,_,.underflow few⟩
  rw [Nat.not_lt] at few
  cases i with
  | pushConstant v => exact ⟨_,_,.push v⟩
  | loadLocal index =>
    cases hs : slot? index f.locals.size with
    | none => exact ⟨_,_,.loadOutside hs⟩
    | some slot => exact ⟨_,_,.load hs (Array.getElem?_eq_getElem (slot?_lt hs))⟩
  | storeLocal index =>
    obtain ⟨v,rest,hv⟩ := exists_operand few
    cases hs : slot? index f.locals.size with
    | none => exact ⟨_,_,.storeOutside hv hs⟩
    | some slot => exact ⟨_,_,.store hv hs⟩
  | add | subtract | multiply =>
    obtain ⟨a,b,rest,hs⟩ := exists_operands few
    exact ⟨_,_,.arithmetic rfl hs⟩
  | divide =>
    obtain ⟨a,b,rest,hs⟩ := exists_operands few
    by_cases zero : a = 0 ∨ b = 0
    · exact ⟨_,_,.divideByZero hs zero⟩
    · rw [not_or] at zero
      exact ⟨_,_,.divide hs zero.1 zero.2⟩
  | branchIfEqual target =>
    obtain ⟨a,b,rest,hs⟩ := exists_operands few
    by_cases h : a = b
    · subst h
      exact of_goesTo length (.equal hs)
    · exact ⟨_,_,.fallThrough (.equal hs h)⟩
  | branchIfNotEqual target =>
    obtain ⟨a,b,rest,hs⟩ := exists_operands few
    by_cases h : a = b
    · subst h
      exact ⟨_,_,.fallThrough (.notEqual hs)⟩
    · exact of_goesTo length (.notEqual hs h)
  | jump target => exact of_goesTo length .jump
  | «return» =>
    obtain ⟨v,rest,hs⟩ := exists_operand few
    exact ⟨_,_,.return hs⟩

lemma ip_eq (h : Steps length f i g result) : g.ip = f.ip := by
  cases h <;> rfl

lemma size_locals (h : Steps length f i g result) : g.locals.size = f.locals.size := by
  cases h with
  | store operand inside => rw [Frame.size_writeLocal, Frame.consume]
  | _ => rfl

/-- A jump leaves the program by no more than the position behind its last instruction. -/
lemma jump_le {n : Nat} (h : Steps length f i g (.ok (.jump n))) : n ≤ length := by
  cases h with
  | goTo goes inside => exact target?_le inside

end Steps

/-- The rules and the function that runs agree. -/
theorem steps_iff {length : Nat} {f g : Frame} {i : Instruction} {result : Except Fault Flow} :
    Steps length f i g result ↔ step length i f = (g, result) := by
  constructor
  · exact Steps.eq_step
  · intro h
    -- Some rule applies, and what it gives is what the function gives.
    obtain ⟨g',result',h'⟩ := Steps.total length f i
    obtain ⟨rfl,rfl⟩ := Prod.mk.inj (h'.eq_step.symm.trans h)
    exact h'

lemma steps_step (length : Nat) (i : Instruction) (f : Frame) :
    Steps length f i (step length i f).1 (step length i f).2 := steps_iff.mpr rfl

lemma steps_of_result {length : Nat} {i : Instruction} {f : Frame} {result : Except Fault Flow}
    (h : (step length i f).2 = result) : Steps length f i (step length i f).1 result :=
  h ▸ steps_step length i f

@[simp] theorem ip_step (length : Nat) (i : Instruction) (f : Frame) :
    (step length i f).1.ip = f.ip := (steps_step length i f).ip_eq

@[simp] theorem size_locals_step (length : Nat) (i : Instruction) (f : Frame) :
    (step length i f).1.locals.size = f.locals.size := (steps_step length i f).size_locals

theorem step_jump_le {length n : Nat} {i : Instruction} {f : Frame}
    (h : (step length i f).2 = .ok (.jump n)) : n ≤ length := (steps_of_result h).jump_le

end StackMachine
