/-! The eleven operations of the machine with their names, operands and stack needs. -/
namespace StackMachine

/-- The operations, in the order in which they are listed. -/
inductive Opcode
  | pushConstant
  | loadLocal
  | storeLocal
  | add
  | subtract
  | multiply
  | divide
  | branchIfEqual
  | branchIfNotEqual
  | jump
  | return
  deriving DecidableEq, Repr

namespace Opcode

def all : List Opcode :=
  [.pushConstant, .loadLocal, .storeLocal, .add, .subtract, .multiply, .divide,
   .branchIfEqual, .branchIfNotEqual, .jump, .return]

/-- The word that a program writes for the operation. -/
def mnemonic : Opcode → String
  | .pushConstant => "iconst"
  | .loadLocal => "iload"
  | .storeLocal => "istore"
  | .add => "iadd"
  | .subtract => "isub"
  | .multiply => "imul"
  | .divide => "idiv"
  | .branchIfEqual => "if_icmpeq"
  | .branchIfNotEqual => "if_icmpne"
  | .jump => "goto"
  | .return => "ireturn"

/-- The name of the operation in traces. -/
def name : Opcode → String
  | .pushConstant => "push_constant"
  | .loadLocal => "load_local"
  | .storeLocal => "store_local"
  | .add => "add"
  | .subtract => "subtract"
  | .multiply => "multiply"
  | .divide => "divide"
  | .branchIfEqual => "branch_if_equal"
  | .branchIfNotEqual => "branch_if_not_equal"
  | .jump => "jump"
  | .return => "return"

/-- The name of the operation in a program written as data. -/
def tag : Opcode → String
  | .pushConstant => "PushConstant"
  | .loadLocal => "LoadLocal"
  | .storeLocal => "StoreLocal"
  | .add => "Add"
  | .subtract => "Subtract"
  | .multiply => "Multiply"
  | .divide => "Divide"
  | .branchIfEqual => "BranchIfEqual"
  | .branchIfNotEqual => "BranchIfNotEqual"
  | .jump => "Jump"
  | .return => "Return"

/-- What the operand is called in a program written as data, for the operations that have one. -/
def operandField : Opcode → Option String
  | .pushConstant => some "value"
  | .loadLocal | .storeLocal => some "idx"
  | .branchIfEqual | .branchIfNotEqual | .jump => some "target"
  | _ => none

def hasOperand (op : Opcode) : Bool := op.operandField.isSome

/-- How many values the operation takes from the stack. -/
def stackInputs : Opcode → Nat
  | .pushConstant | .loadLocal | .jump => 0
  | .storeLocal | .return => 1
  | .add | .subtract | .multiply | .divide | .branchIfEqual | .branchIfNotEqual => 2

def ofMnemonic? (s : String) : Option Opcode := all.find? (·.mnemonic == s)

def ofName? (s : String) : Option Opcode := all.find? (·.name == s)

def ofTag? (s : String) : Option Opcode := all.find? (·.tag == s)

@[simp] theorem ofMnemonic?_mnemonic (op : Opcode) : ofMnemonic? op.mnemonic = some op := by
  cases op <;> decide

@[simp] theorem ofName?_name (op : Opcode) : ofName? op.name = some op := by
  cases op <;> decide

@[simp] theorem ofTag?_tag (op : Opcode) : ofTag? op.tag = some op := by
  cases op <;> decide

end Opcode
end StackMachine
