import StackMachine.Opcode
import StackMachine.Text.Decimal

/-! Instructions: an operation with the operand it needs. Operands are kept as written; whether an index
fits the local table or the program is decided only when the instruction runs. -/
namespace StackMachine

inductive Instruction
  | pushConstant (value : Word)
  | loadLocal (index : Word)
  | storeLocal (index : Word)
  | add
  | subtract
  | multiply
  | divide
  | branchIfEqual (target : Word)
  | branchIfNotEqual (target : Word)
  | jump (target : Word)
  | return
  deriving DecidableEq, Repr

namespace Instruction

def opcode : Instruction → Opcode
  | .pushConstant _ => .pushConstant
  | .loadLocal _ => .loadLocal
  | .storeLocal _ => .storeLocal
  | .add => .add
  | .subtract => .subtract
  | .multiply => .multiply
  | .divide => .divide
  | .branchIfEqual _ => .branchIfEqual
  | .branchIfNotEqual _ => .branchIfNotEqual
  | .jump _ => .jump
  | .return => .return

def operand? : Instruction → Option Word
  | .pushConstant v | .loadLocal v | .storeLocal v
  | .branchIfEqual v | .branchIfNotEqual v | .jump v => some v
  | _ => none

/-- The instruction of an operation and an operand, if the operation takes one exactly when one is given. -/
def ofParts? : Opcode → Option Word → Option Instruction
  | .pushConstant, some v => some (.pushConstant v)
  | .loadLocal, some v => some (.loadLocal v)
  | .storeLocal, some v => some (.storeLocal v)
  | .add, none => some .add
  | .subtract, none => some .subtract
  | .multiply, none => some .multiply
  | .divide, none => some .divide
  | .branchIfEqual, some v => some (.branchIfEqual v)
  | .branchIfNotEqual, some v => some (.branchIfNotEqual v)
  | .jump, some v => some (.jump v)
  | .return, none => some .return
  | _, _ => none

@[simp] theorem ofParts?_opcode_operand? (i : Instruction) : ofParts? i.opcode i.operand? = some i := by
  cases i <;> rfl

@[simp] theorem isSome_operand? (i : Instruction) : i.operand?.isSome = i.opcode.hasOperand := by
  cases i <;> rfl

theorem isSome_ofParts? (op : Opcode) (v : Option Word) :
    (ofParts? op v).isSome = (op.hasOperand == v.isSome) := by
  cases op <;> cases v <;> rfl

/-- The canonical text: the mnemonic, and after one space the operand if there is one. -/
def text (i : Instruction) : String :=
  match i.operand? with
  | none => i.opcode.mnemonic
  | some v => i.opcode.mnemonic ++ " " ++ Text.wordText v

end Instruction

/-- The natural number that `index` stands for if it is below `limit`. -/
def boundedIndex? (index : Word) (limit : Nat) : Option Nat :=
  if 0 ≤ index.toInt ∧ index.toInt < limit then some index.toInt.toNat else none

/-- The slot of a local index in a table of `capacity` slots. -/
def slot? (index : Word) (capacity : Nat) : Option Nat := boundedIndex? index capacity

/-- The position of a jump target in a program of `length` instructions. The position just behind the
last instruction is one too: landing there ends the program. -/
def target? (index : Word) (length : Nat) : Option Nat := boundedIndex? index (length + 1)

theorem boundedIndex?_eq_some_iff {index : Word} {limit n : Nat} :
    boundedIndex? index limit = some n ↔ index.toInt = n ∧ n < limit := by
  by_cases h : 0 ≤ index.toInt ∧ index.toInt < limit
  · rw [boundedIndex?, if_pos h, Option.some.injEq]; omega
  · rw [boundedIndex?, if_neg h]; simp only [reduceCtorEq, false_iff]; omega

theorem boundedIndex?_eq_none_iff {index : Word} {limit : Nat} :
    boundedIndex? index limit = none ↔ index.toInt < 0 ∨ (limit : Int) ≤ index.toInt := by
  by_cases h : 0 ≤ index.toInt ∧ index.toInt < limit
  · rw [boundedIndex?, if_pos h]; simp only [reduceCtorEq, false_iff]; omega
  · rw [boundedIndex?, if_neg h]; simp only [true_iff]; omega

end StackMachine
