import StackMachine.Frame

/-! One step of the machine: what a single instruction does to the frame and where control goes next. -/
namespace StackMachine

/-- Where control goes after an instruction. -/
inductive Flow
  | next
  | jump (ip : Nat)
  | return (value : Word)
  deriving DecidableEq, Repr

/-- Division toward zero, refused when either operand is zero; the quotient that overflows wraps. -/
def divide? (a b : Word) : Option Word := if a = 0 ∨ b = 0 then none else some (a / b)

/-- Go to a target in a program of `length` instructions. -/
def jumpTo (ip length : Nat) (target : Word) : Except Fault Flow :=
  match target? target length with
  | some n => .ok (.jump n)
  | none => .error (.indexOutOfRange .jumpTarget target length ip)

def branch (ip length : Nat) (target : Word) (taken : Bool) : Except Fault Flow :=
  if taken then jumpTo ip length target else .ok .next

/-- Run one instruction of a program of `length` instructions on the operands that it takes off the stack. Of
two operands the first is the one on top. The instruction pointer stays where it is. A step that fails may
already have taken its operands: this shows in the frame that is returned with the error. -/
def step (length : Nat) (i : Instruction) (f : Frame) : Frame × Except Fault Flow :=
  match i, f.popN i.opcode.stackInputs with
  | .pushConstant v, .ok (_, g) => (g.push v, .ok .next)
  | .loadLocal index, .ok (_, g) =>
    match g.getLocal index with
    | .ok v => (g.push v, .ok .next)
    | .error e => (g, .error e)
  | .storeLocal index, .ok ([v], g) =>
    -- A bad index leaves the stack as it was.
    match f.localSlot index with
    | .ok slot => (g.writeLocal slot v, .ok .next)
    | .error e => (f, .error e)
  | .add, .ok ([a, b], g) => (g.push (a + b), .ok .next)
  | .subtract, .ok ([a, b], g) => (g.push (a - b), .ok .next)
  | .multiply, .ok ([a, b], g) => (g.push (a * b), .ok .next)
  | .divide, .ok ([a, b], g) =>
    match divide? a b with
    | some q => (g.push q, .ok .next)
    | none => (g, .error (.divisionByZero g.ip))
  | .branchIfEqual target, .ok ([a, b], g) => (g, branch g.ip length target (a == b))
  | .branchIfNotEqual target, .ok ([a, b], g) => (g, branch g.ip length target (a != b))
  | .jump target, .ok (_, g) => (g, jumpTo g.ip length target)
  | .return, .ok ([v], g) => (g, .ok (.return v))
  | i, _ => (f, .error (f.underflow i.opcode.stackInputs))

end StackMachine
