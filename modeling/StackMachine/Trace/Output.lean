/-! Byte outputs that may run full: an output with a limit takes the first bytes up to the limit and
refuses the rest, one without a limit takes everything. -/
namespace StackMachine

inductive OutputError
  | full
  deriving DecidableEq, Repr

def OutputError.message : OutputError → String
  | .full => "disk full"

structure Output where
  limit : Option Nat
  written : ByteArray := .empty

namespace Output

/-- The bytes taken so far. -/
def toList (o : Output) : List UInt8 := o.written.data.toList

/-- Write all of `bytes`, or as many as still fit. -/
def write (o : Output) (bytes : ByteArray) : Output × Except OutputError Unit :=
  match o.limit with
  | none => ({ o with written := o.written ++ bytes }, .ok ())
  | some n =>
    let room := n - o.written.size
    if bytes.size ≤ room then ({ o with written := o.written ++ bytes }, .ok ())
    else ({ o with written := o.written ++ bytes.extract 0 room }, .error .full)

end Output
end StackMachine
