import StackMachine.Trace.Format
import StackMachine.Trace.Output
import StackMachine.Trace.Sink

/-! The sink that writes each entry to an output. A write that fails while recording switches the writer
off and is reported when the trace is finished; the run that is watched never notices. -/
namespace StackMachine

structure Writer where
  format : TraceFormat
  output : Output
  failure : Option OutputError := none

namespace Writer

/-- A writer on `output`, with the heading of its format written. When the heading does not fit there is
no writer, only the output with the part that fitted. -/
def new (format : TraceFormat) (output : Output) : Except (OutputError × Output) Writer :=
  match output.write format.header.toUTF8 with
  | (output, .ok ()) => .ok { format, output }
  | (output, .error e) => .error (e, output)

def enabled (w : Writer) : Bool := w.failure.isNone

def writeEntry (w : Writer) (e : Entry) : Writer × Except OutputError Unit :=
  let (output, result) := w.output.write (w.format.line e).toUTF8
  ({ w with output }, result)

/-- Write an entry and remember a failure. -/
def record (w : Writer) (e : Entry) : Writer :=
  match w.writeEntry e with
  | (w, .ok ()) => w
  | (w, .error e) => { w with failure := some e }

/-- Whether everything recorded was written. -/
def finish (w : Writer) : Except OutputError Unit :=
  match w.failure with
  | some e => .error e
  | none => .ok ()

end Writer

instance : Sink Writer where
  enabled := Writer.enabled
  record := Writer.record

end StackMachine
