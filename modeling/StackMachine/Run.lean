import StackMachine.Program
import StackMachine.Step
import StackMachine.Trace.Sink

/-! Runs: the machine fetches the instruction at the instruction pointer, shows it to a sink and steps,
until the program returns, fails or moves behind its end. A run is followed for a number of rounds, since
a program need not end. -/
namespace StackMachine

/-- What a run has come to. -/
inductive Status
  | running
  | returned (value : Word)
  | ended
  | failed (fault : Fault)
  deriving DecidableEq, Repr

/-- The outcome of a run that is over: the value returned, if any, or what went wrong. -/
def Status.outcome? : Status → Option (Except Fault (Option Word))
  | .running => none
  | .returned v => some (.ok (some v))
  | .ended => some (.ok none)
  | .failed e => some (.error e)

/-- A run under way, watched by a sink of type `σ`. -/
structure Run (σ : Type) where
  frame : Frame
  steps : Nat
  sink : σ
  status : Status

namespace Run

variable {σ : Type} [Sink σ]

def start (capacity : Nat) (sink : σ) : Run σ := ⟨Frame.new capacity, 0, sink, .running⟩

/-- Run the instruction `i` that was fetched. Its pointer has no bound here; in a program of fewer instructions
than there are 64-bit words, going on to the next one is `Frame.advanceIp`. -/
def exec (p : Program) (r : Run σ) (i : Instruction) : Run σ :=
  let sink := Sink.observe r.sink r.steps r.frame i
  let steps := r.steps + 1
  match step p.size i r.frame with
  | (f, .ok .next) => ⟨f.setIp (f.ip + 1), steps, sink, .running⟩
  | (f, .ok (.jump ip)) => ⟨f.setIp ip, steps, sink, .running⟩
  | (f, .ok (.return v)) => ⟨f, steps, sink, .returned v⟩
  | (f, .error e) => ⟨f, steps, sink, .failed e⟩

/-- One round of a run that is not over. -/
def round (p : Program) (r : Run σ) : Run σ :=
  match p.get? r.frame.ip with
  | none => { r with status := .ended }
  | some i => r.exec p i

/-- Up to `n` rounds; a run that is over stays as it is. -/
def rounds (p : Program) : Nat → Run σ → Run σ
  | 0, r => r
  | n + 1, r =>
    match r.status with
    | .running => rounds p n (r.round p)
    | _ => r

/-- More rounds than anyone can wait for. -/
def patience : Nat := 0x4000000000000000

theorem rounds_of_ne_running (p : Program) (n : Nat) {r : Run σ} (h : r.status ≠ .running) :
    rounds p n r = r := by
  cases n with
  | zero => rfl
  | succ n => rw [rounds]; split <;> simp_all

end Run

namespace Program

variable {σ : Type} [Sink σ]

/-- Run a program from a fresh frame, for at most `budget` rounds, under the eyes of a sink. -/
def runTraced (p : Program) (budget capacity : Nat) (sink : σ) : Run σ :=
  Run.rounds p budget (Run.start capacity sink)

/-- Run a program unwatched. -/
def run (p : Program) (budget capacity : Nat) : Run Silence := p.runTraced budget capacity {}

/-- Decode and run lines of text. Nothing runs unless every line decodes. -/
def runLines (lines : List String) (budget capacity : Nat) : Option (Except Fault (Option Word)) :=
  match decode lines with
  | .error e => some (.error (.undecodable e))
  | .ok p => (p.run budget capacity).status.outcome?

end Program
end StackMachine
