import StackMachine.Proofs.Rounds

/-! Sinks only observe. A run goes the same way under every sink, and what a sink has become is what it
made of one and the same list of entries. -/
namespace StackMachine

variable {σ τ : Type} {p : Program}

/-- Show a sink an entry, if it wants any. -/
def Sink.offer [Sink σ] (s : σ) (e : Entry) : σ := if Sink.enabled s then Sink.record s e else s

/-- What holds of a state and what it was shown, and is kept by showing it one thing more, holds after any
number of them. -/
lemma foldl_invariant {α : Type} {f : σ → α → σ} {P : List α → σ → Prop}
    (keeps : ∀ seen s x, P seen s → P (seen ++ [x]) (f s x)) {seen : List α} {s : σ} (h : P seen s)
    (more : List α) : P (seen ++ more) (more.foldl f s) := by
  induction more generalizing seen s with
  | nil => rwa [List.append_nil]
  | cons x more ih =>
    rw [List.append_cons]
    exact ih (keeps seen s x h)

/-- Runs that differ at most in their sinks. -/
structure Run.Alike (r : Run σ) (r' : Run τ) : Prop where
  frame : r.frame = r'.frame
  steps : r.steps = r'.steps
  status : r.status = r'.status

namespace Run

lemma alike_start (capacity : Nat) (sink : σ) (sink' : τ) :
    (start capacity sink).Alike (start capacity sink') := ⟨rfl,rfl,rfl⟩

variable [Sink σ] [Sink τ]

lemma Alike.exec {r : Run σ} {r' : Run τ} (h : r.Alike r') (i : Instruction) :
    (r.exec p i).Alike (r'.exec p i) := by
  rw [exec_eq, exec_eq]
  refine ⟨?_,?_,?_⟩
  · simp only [h.frame]
  · simp only [h.steps]
  · simp only [h.frame]

/-- A round of two runs that are alike fetches the same instruction in both. -/
theorem Alike.round {r : Run σ} {r' : Run τ} (h : r.Alike r') : (r.round p).Alike (r'.round p) := by
  cases hf : p.get? r.frame.ip with
  | none =>
    rw [round_of_end hf, round_of_end (h.frame ▸ hf)]
    exact ⟨h.frame,h.steps,rfl⟩
  | some i =>
    rw [round_of_fetch hf, round_of_fetch (h.frame ▸ hf)]
    exact h.exec i

end Run

namespace Program

variable [Sink σ] [Sink τ]

theorem alike_runTraced (p : Program) (n capacity : Nat) (sink : σ) (sink' : τ) :
    (p.runTraced n capacity sink).Alike (p.runTraced n capacity sink') := by
  unfold runTraced
  apply Run.rounds_simulation (R := Run.Alike)
  · intro r r' h
    rw [h.status]
  · intro r r' h _
    exact h.round
  · exact Run.alike_start capacity sink sink'

/-- Whatever the sink is and whatever state it starts in (silent, a log, a ring of any size and content,
a writer on an output that may run full anywhere), it changes neither the frame nor the status of a run
after any number of rounds. So a watched run ends exactly if the unwatched one does, with its outcome. -/
theorem runTraced_observes (p : Program) (capacity : Nat) (sink : σ) :
    (∀ n, (p.runTraced n capacity sink).frame = (p.run n capacity).frame ∧
      (p.runTraced n capacity sink).status = (p.run n capacity).status) ∧
    ∀ outcome, p.EndsWith capacity sink outcome ↔ p.EndsWith capacity Silence.mk outcome := by
  constructor
  · intro n
    have h := alike_runTraced p n capacity sink Silence.mk
    exact ⟨h.frame,h.status⟩
  · intro outcome
    have h : ∀ n, (p.runTraced n capacity sink).status = (p.runTraced n capacity Silence.mk).status :=
      fun n => (alike_runTraced p n capacity sink Silence.mk).status
    simp only [EndsWith, h]

/-- The entries of the instructions that a run of at most `budget` rounds executes, in order. -/
def trace (p : Program) (budget capacity : Nat) : List Entry :=
  (p.runTraced budget capacity ({ listening := true } : Journal)).sink.entries.toList

lemma listening_runTraced (p : Program) (n capacity : Nat) :
    (p.runTraced n capacity ({ listening := true } : Journal)).sink.listening = true := by
  unfold runTraced
  apply Run.rounds_invariant (P := fun r : Run Journal => r.sink.listening = true)
  · intro r h _
    exact h
  · intro r i h _
    rw [Run.exec_eq]
    simp only [Sink.observe]
    split <;> exact h
  · rfl

/-- An instruction that runs adds its entry to the trace. -/
lemma trace_succ {n capacity : Nat} {sink : σ} {i : Instruction}
    (hr : (p.runTraced n capacity sink).status = .running)
    (hi : p.get? (p.runTraced n capacity sink).frame.ip = some i) :
    p.trace (n + 1) capacity = p.trace n capacity ++
      [Entry.capture (p.runTraced n capacity sink).steps (p.runTraced n capacity sink).frame i] := by
  have h := alike_runTraced p n capacity ({ listening := true } : Journal) sink
  have hl := listening_runTraced p n capacity
  rw [← h.frame] at hi
  rw [trace, runTraced_succ (h.status.trans hr), Run.round_of_fetch hi, Run.exec_eq, ← h.frame, ← h.steps]
  simp only [Sink.observe, Sink.enabled, hl, if_true, Sink.record, Array.toList_push]
  rfl

/-- A round that runs no instruction leaves the trace as it is. -/
lemma trace_succ_of_no_fetch {n capacity : Nat} {sink : σ}
    (h : (p.runTraced n capacity sink).status ≠ .running ∨
      p.get? (p.runTraced n capacity sink).frame.ip = none) :
    p.trace (n + 1) capacity = p.trace n capacity := by
  have ha := alike_runTraced p n capacity ({ listening := true } : Journal) sink
  rw [← ha.frame, ← ha.status] at h
  obtain ⟨_,he⟩ | ⟨hr,⟨_,he⟩ | ⟨i,hi,_⟩⟩ :=
    runTraced_succ_cases p n capacity ({ listening := true } : Journal)
  · rw [trace, trace, he]
  · rw [trace, trace, he]
  · obtain h | h := h
    · exact absurd hr h
    · rw [hi] at h
      cases h

/-- A sink has become what it makes of the trace, entry by entry, by whatever it does when it is shown
one during the run. -/
lemma sink_runTraced_foldl {capacity : Nat} {sink : σ} {f : σ → Entry → σ}
    (shown : ∀ m, (p.runTraced m capacity sink).status = .running →
      ∀ e, Sink.offer (p.runTraced m capacity sink).sink e = f (p.runTraced m capacity sink).sink e)
    (n : Nat) : (p.runTraced n capacity sink).sink = (p.trace n capacity).foldl f sink := by
  induction n with
  | zero => rfl
  | succ n ih =>
    obtain ⟨hr,he⟩ | ⟨hr,⟨hi,he⟩ | ⟨i,hi,he⟩⟩ := runTraced_succ_cases p n capacity sink
    · rw [he, trace_succ_of_no_fetch (.inl hr), ih]
    · rw [he, trace_succ_of_no_fetch (.inr hi), ih]
    · rw [he, trace_succ hr hi, Run.exec_eq, List.foldl_append, ← ih]
      exact shown n hr _

/-- What a sink has become is what it made of the trace, offered entry by entry. -/
theorem sink_runTraced (p : Program) (n capacity : Nat) (sink : σ) :
    (p.runTraced n capacity sink).sink = (p.trace n capacity).foldl Sink.offer sink :=
  sink_runTraced_foldl (fun _ _ _ => rfl) n

/-- A sink that is enabled whenever an instruction is about to run records the whole trace. -/
theorem sink_runTraced_of_enabled {capacity : Nat} {sink : σ}
    (awake : ∀ m, (p.runTraced m capacity sink).status = .running →
      Sink.enabled (p.runTraced m capacity sink).sink = true) (n : Nat) :
    (p.runTraced n capacity sink).sink = (p.trace n capacity).foldl Sink.record sink :=
  sink_runTraced_foldl (fun m hr e => by rw [Sink.offer, awake m hr, if_pos rfl]) n

end Program
end StackMachine
