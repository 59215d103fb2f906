import StackMachine.Fault

/-! The state of a running program: an operand stack, a fixed table of locals and the instruction pointer.
Operations that can fail leave the frame alone when they do. -/
namespace StackMachine

structure Frame where
  /-- The operand stack, its top first. -/
  stack : List Word
  locals : Array Word
  ip : Nat
  deriving DecidableEq, Repr

namespace Frame

/-- The frame in which a program starts: nothing on the stack and every local zero. That memory for so many
locals may be refused is left out. -/
def new (capacity : Nat) : Frame := ⟨[], Array.replicate capacity 0, 0⟩

def depth (f : Frame) : Nat := f.stack.length

def push (f : Frame) (v : Word) : Frame := { f with stack := v :: f.stack }

def setIp (f : Frame) (ip : Nat) : Frame := { f with ip := ip }

/-- Move to the next instruction, counting in 64-bit words. -/
def advanceIp (f : Frame) : Frame := { f with ip := (f.ip + 1) % UInt64.size }

def underflow (f : Frame) (required : Nat) : Fault := .stackUnderflow required f.depth f.ip

def ensureDepth (f : Frame) (required : Nat) : Except Fault Unit :=
  if f.depth < required then .error (f.underflow required) else .ok ()

/-- Take `n` values off the stack; the first one returned was on top. -/
def popN (f : Frame) (n : Nat) : Except Fault (List Word × Frame) :=
  match f.ensureDepth n with
  | .error e => .error e
  | .ok () => .ok (f.stack.take n, { f with stack := f.stack.drop n })

/-- The slot that a local index names. -/
def localSlot (f : Frame) (index : Word) : Except Fault Nat :=
  match slot? index f.locals.size with
  | some slot => .ok slot
  | none => .error (.indexOutOfRange .localSlot index f.locals.size f.ip)

def getLocal (f : Frame) (index : Word) : Except Fault Word :=
  match f.localSlot index with
  | .ok slot => .ok (f.locals[slot]?.getD 0)
  | .error e => .error e

/-- Write a slot that `localSlot` returned. -/
def writeLocal (f : Frame) (slot : Nat) (v : Word) : Frame :=
  { f with locals := f.locals.setIfInBounds slot v }

@[simp] theorem size_writeLocal (f : Frame) (slot : Nat) (v : Word) :
    (f.writeLocal slot v).locals.size = f.locals.size := by simp [writeLocal]

end Frame
end StackMachine
