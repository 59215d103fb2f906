import StackMachine.Trace.Entry

/-! Sinks: what watches a run. A sink is shown an entry for each instruction about to run, for as long as
it is enabled, and can answer nothing. -/
namespace StackMachine

class Sink (σ : Type) where
  /-- Whether the sink wants entries at all. -/
  enabled : σ → Bool
  record : σ → Entry → σ

/-- Show the sink the instruction about to run. -/
def Sink.observe {σ : Type} [Sink σ] (s : σ) (step : Nat) (f : Frame) (i : Instruction) : σ :=
  if Sink.enabled s then Sink.record s (Entry.capture step f i) else s

/-- The sink that wants nothing. -/
structure Silence where
  deriving DecidableEq, Repr

instance : Sink Silence where
  enabled _ := false
  record s _ := s

/-- The sink that keeps every entry, if anyone listens. -/
structure Journal where
  listening : Bool
  entries : Array Entry := #[]
  deriving DecidableEq, Repr

instance : Sink Journal where
  enabled j := j.listening
  record j e := { j with entries := j.entries.push e }

end StackMachine
