import Mathlib.Tactic.Lemma
import StackMachine.Run

/-! Runs round by round. One round is given by an equation; a property that every round keeps holds after
any number of rounds, for one run and for two runs side by side. -/
namespace StackMachine

/-- The frame after a step, its instruction pointer moved to where control goes. -/
def Frame.after : Frame × Except Fault Flow → Frame
  | (f, .ok .next) => f.setIp (f.ip + 1)
  | (f, .ok (.jump ip)) => f.setIp ip
  | (f, .ok (.return _)) => f
  | (f, .error _) => f

/-- What a step makes of the run. -/
def Status.after : Except Fault Flow → Status
  | .ok .next => .running
  | .ok (.jump _) => .running
  | .ok (.return v) => .returned v
  | .error e => .failed e

@[simp] theorem Status.after_ne_ended (result : Except Fault Flow) : Status.after result ≠ .ended := by
  rcases result with _ | _ | _ | _ <;> simp [Status.after]

@[simp] theorem Status.after_eq_failed_iff {result : Except Fault Flow} {e : Fault} :
    Status.after result = .failed e ↔ result = .error e := by
  rcases result with _ | _ | _ | _ <;> simp [Status.after]

lemma Status.ne_running_of_outcome? {s : Status} {outcome : Except Fault (Option Word)}
    (h : s.outcome? = some outcome) : s ≠ .running := by
  rintro rfl
  cases h

namespace Run

variable {σ τ : Type} [Sink σ] [Sink τ] {p : Program}

theorem exec_eq (p : Program) (r : Run σ) (i : Instruction) :
    r.exec p i = ⟨Frame.after (step p.size i r.frame), r.steps + 1,
      Sink.observe r.sink r.steps r.frame i, Status.after (step p.size i r.frame).2⟩ := by
  unfold exec
  rcases step p.size i r.frame with ⟨f,_ | _ | _ | _⟩ <;> rfl

lemma round_of_fetch {r : Run σ} {i : Instruction} (h : p.get? r.frame.ip = some i) :
    r.round p = r.exec p i := by
  simp only [round, h]

lemma round_of_end {r : Run σ} (h : p.get? r.frame.ip = none) :
    r.round p = { r with status := .ended } := by
  simp only [round, h]

lemma rounds_succ_of_running {r : Run σ} (n : Nat) (h : r.status = .running) :
    rounds p (n + 1) r = rounds p n (r.round p) := by
  simp only [rounds, h]

/-- Rounds can be cut anywhere. -/
theorem rounds_add (p : Program) (m n : Nat) (r : Run σ) :
    rounds p (m + n) r = rounds p n (rounds p m r) := by
  induction m generalizing r with
  | zero => rw [Nat.zero_add, rounds]
  | succ m ih =>
    rw [Nat.add_right_comm]
    by_cases h : r.status = .running
    · rw [rounds_succ_of_running _ h, rounds_succ_of_running _ h, ih]
    · rw [rounds_of_ne_running p _ h, rounds_of_ne_running p _ h, rounds_of_ne_running p _ h]

lemma rounds_succ_last {n : Nat} {r : Run σ} (h : (rounds p n r).status = .running) :
    rounds p (n + 1) r = (rounds p n r).round p := by
  rw [rounds_add, rounds_succ_of_running 0 h, rounds]

lemma rounds_succ_of_over {n : Nat} {r : Run σ} (h : (rounds p n r).status ≠ .running) :
    rounds p (n + 1) r = rounds p n r := by
  rw [rounds_add, rounds_of_ne_running p 1 h]

/-- What one more round does: nothing to a run that is over, otherwise it finds the end of the program or
runs the instruction that it fetches. -/
theorem rounds_succ_cases (p : Program) (n : Nat) (r : Run σ) :
    (rounds p n r).status ≠ .running ∧ rounds p (n + 1) r = rounds p n r ∨
    (rounds p n r).status = .running ∧
      (p.get? (rounds p n r).frame.ip = none ∧
        rounds p (n + 1) r = { rounds p n r with status := .ended } ∨
      ∃ i, p.get? (rounds p n r).frame.ip = some i ∧ rounds p (n + 1) r = (rounds p n r).exec p i) := by
  by_cases hr : (rounds p n r).status = .running
  · refine .inr ⟨hr,?_⟩
    rw [rounds_succ_last hr]
    cases hf : p.get? (rounds p n r).frame.ip with
    | none => exact .inl ⟨rfl,round_of_end hf⟩
    | some i => exact .inr ⟨i,rfl,round_of_fetch hf⟩
  · exact .inl ⟨hr,rounds_succ_of_over hr⟩

/-- What finding the end of the program keeps and running an instruction keeps, a run keeps. -/
theorem rounds_invariant {P : Run σ → Prop}
    (ends : ∀ r : Run σ, P r → p.get? r.frame.ip = none → P { r with status := .ended })
    (execs : ∀ (r : Run σ) i, P r → p.get? r.frame.ip = some i → P (r.exec p i))
    (n : Nat) {r : Run σ} (h : P r) : P (rounds p n r) := by
  induction n generalizing r with
  | zero => exact h
  | succ n ih =>
    by_cases hr : r.status = .running
    · rw [rounds_succ_of_running n hr]
      apply ih
      cases hf : p.get? r.frame.ip with
      | none => exact round_of_end hf ▸ ends r h hf
      | some i => exact round_of_fetch hf ▸ execs r i h hf
    · rwa [rounds_of_ne_running p _ hr]

/-- Two runs that are related stay related, as long as related runs are under way together and a round
of both keeps the relation. -/
theorem rounds_simulation {q : Program} {R : Run σ → Run τ → Prop}
    (together : ∀ r r', R r r' → (r.status = .running ↔ r'.status = .running))
    (keeps : ∀ r r', R r r' → r.status = .running → R (r.round p) (r'.round q))
    (n : Nat) {r : Run σ} {r' : Run τ} (h : R r r') : R (rounds p n r) (rounds q n r') := by
  induction n generalizing r r' with
  | zero => exact h
  | succ n ih =>
    by_cases hr : r.status = .running
    · have hr' : r'.status = .running := (together r r' h).mp hr
      rw [rounds_succ_of_running n hr, rounds_succ_of_running n hr']
      exact ih (keeps r r' h hr)
    · have hr' : r'.status ≠ .running := fun h' => hr ((together r r' h).mpr h')
      rwa [rounds_of_ne_running p _ hr, rounds_of_ne_running q _ hr']

end Run

namespace Program

variable {σ : Type} [Sink σ] {p : Program} {capacity : Nat} {sink : σ}

/-- The run comes to an end, with this outcome. -/
def EndsWith (p : Program) (capacity : Nat) (sink : σ) (outcome : Except Fault (Option Word)) : Prop :=
  ∃ n, (p.runTraced n capacity sink).status.outcome? = some outcome

lemma runTraced_succ {n : Nat} (h : (p.runTraced n capacity sink).status = .running) :
    p.runTraced (n + 1) capacity sink = (p.runTraced n capacity sink).round p :=
  Run.rounds_succ_last h

lemma runTraced_of_le {m n : Nat} (h : (p.runTraced m capacity sink).status ≠ .running) (hmn : m ≤ n) :
    p.runTraced n capacity sink = p.runTraced m capacity sink := by
  obtain ⟨k,rfl⟩ := Nat.exists_eq_add_of_le hmn
  unfold runTraced at h ⊢
  rw [Run.rounds_add, Run.rounds_of_ne_running p k h]

theorem runTraced_succ_cases (p : Program) (n capacity : Nat) (sink : σ) :
    (p.runTraced n capacity sink).status ≠ .running ∧
      p.runTraced (n + 1) capacity sink = p.runTraced n capacity sink ∨
    (p.runTraced n capacity sink).status = .running ∧
      (p.get? (p.runTraced n capacity sink).frame.ip = none ∧
        p.runTraced (n + 1) capacity sink = { p.runTraced n capacity sink with status := .ended } ∨
      ∃ i, p.get? (p.runTraced n capacity sink).frame.ip = some i ∧
        p.runTraced (n + 1) capacity sink = (p.runTraced n capacity sink).exec p i) :=
  Run.rounds_succ_cases p n (Run.start capacity sink)

/-- A run has one outcome. -/
theorem outcome_unique {m n : Nat} {a b : Except Fault (Option Word)}
    (ha : (p.runTraced m capacity sink).status.outcome? = some a)
    (hb : (p.runTraced n capacity sink).status.outcome? = some b) : a = b := by
  have hm := Status.ne_running_of_outcome? ha
  have hn := Status.ne_running_of_outcome? hb
  have hruns : p.runTraced m capacity sink = p.runTraced n capacity sink := by
    obtain hmn | hnm := Nat.le_total m n
    · exact (runTraced_of_le hm hmn).symm
    · exact runTraced_of_le hn hnm
  rw [hruns, hb] at ha
  exact (Option.some.inj ha).symm

/-- A run that is over was under way until one last round. -/
theorem exists_last_round {n : Nat} (h : (p.runTraced n capacity sink).status ≠ .running) :
    ∃ m < n, (p.runTraced m capacity sink).status = .running ∧
      p.runTraced n capacity sink = (p.runTraced m capacity sink).round p := by
  induction n with
  | zero => exact absurd rfl h
  | succ n ih =>
    by_cases hn : (p.runTraced n capacity sink).status = .running
    · exact ⟨n,n.lt_succ_self,hn,runTraced_succ hn⟩
    · have hs := runTraced_of_le hn n.le_succ
      obtain ⟨m,hm,hr,he⟩ := ih hn
      exact ⟨m,by omega,hr,hs.trans he⟩

end Program
end StackMachine
