import StackMachine.Data.Datum
import StackMachine.Frame

/-! Trace entries: snapshots of the machine taken just before an instruction runs. -/
namespace StackMachine

structure Entry where
  /-- How many instructions ran before this one. -/
  step : Nat
  ip : Nat
  opcode : Opcode
  /-- The canonical text of the instruction. -/
  instruction : String
  /-- The operand stack, its bottom first. -/
  stack : List Word
  locals : List Word
  deriving DecidableEq, Repr

namespace Entry

def capture (step : Nat) (f : Frame) (i : Instruction) : Entry where
  step := step
  ip := f.ip
  opcode := i.opcode
  instruction := i.text
  stack := f.stack.reverse
  locals := f.locals.toList

/-- The frame that the entry shows. -/
def frame (e : Entry) : Frame := ⟨e.stack.reverse, e.locals.toArray, e.ip⟩

@[simp] theorem frame_capture (step : Nat) (f : Frame) (i : Instruction) :
    (capture step f i).frame = f := by simp [frame, capture]

def words (ws : List Word) : Datum := .list (ws.map fun w => .int w.toInt)

def toDatum (e : Entry) : Datum :=
  .record
    [("step", .int e.step), ("ip", .int e.ip), ("opcode", .text e.opcode.name),
     ("instruction", .text e.instruction), ("stack", words e.stack), ("locals", words e.locals)]

end Entry
end StackMachine
