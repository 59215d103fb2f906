import StackMachine.Trace.Writer

/-! A ring of the newest entries. Entries fill the slots in order; once all are in use the oldest entry,
which stands at `head`, makes room for the next. -/
namespace StackMachine

structure RingBuffer where
  capacity : Nat
  slots : Array Entry := #[]
  head : Nat := 0
  full : Bool := false
  deriving DecidableEq, Repr

namespace RingBuffer

/-- A ring has room for one entry at least. That memory for so many entries may be refused is left out. -/
def new (capacity : Nat) : RingBuffer := { capacity := max capacity 1 }

def push (r : RingBuffer) (e : Entry) : RingBuffer :=
  if r.full then
    { r with slots := r.slots.setIfInBounds r.head e, head := (r.head + 1) % r.capacity }
  else
    { r with slots := r.slots.push e, full := r.slots.size + 1 == r.capacity }

/-- The entries, the oldest first. -/
def toList (r : RingBuffer) : List Entry := r.slots.toList.drop r.head ++ r.slots.toList.take r.head

def size (r : RingBuffer) : Nat := r.slots.size

def isEmpty (r : RingBuffer) : Bool := r.slots.isEmpty

/-- Write entries in order, up to the first that does not fit. -/
def writeAll : Writer → List Entry → Writer × Except OutputError Unit
  | w, [] => (w, w.finish)
  | w, e :: es =>
    match w.writeEntry e with
    | (w, .ok ()) => writeAll w es
    | (w, .error err) => (w, .error err)

/-- Write the heading of `format` and the entries, the oldest first. -/
def dump (r : RingBuffer) (format : TraceFormat) (output : Output) : Output × Except OutputError Unit :=
  match Writer.new format output with
  | .error (e, output) => (output, .error e)
  | .ok w =>
    let (w, result) := writeAll w r.toList
    (w.output, result)

end RingBuffer

instance : Sink RingBuffer where
  enabled _ := true
  record := RingBuffer.push

end StackMachine
