import StackMachine.Proofs.Rounds
import StackMachine.Proofs.Step

/-! Bounds of a run. The instruction pointer of a run never passes the end of the program and its local
table never changes its size, so no fetch, no step to the next instruction and no access to a local goes
wrong; and a run falls off the end exactly if its instruction pointer gets there. -/
namespace StackMachine

variable {σ : Type} {p : Program} {capacity : Nat}

lemma Program.exists_get?_iff {ip : Nat} : (∃ i, p.get? ip = some i) ↔ ip < p.size := by
  constructor
  · rintro ⟨i,hi⟩
    exact (Array.getElem?_eq_some_iff.mp hi).1
  · intro h
    exact ⟨_,Array.getElem?_eq_getElem h⟩

lemma Status.outcome?_eq_ok_none_iff {s : Status} : s.outcome? = some (.ok none) ↔ s = .ended := by
  cases s <;> simp [Status.outcome?]

namespace Frame

lemma after_of_ne_running {out : Frame × Except Fault Flow} (h : Status.after out.2 ≠ .running) :
    Frame.after out = out.1 := by
  rcases out with ⟨f,_ | _ | _ | _⟩
  · rfl
  · exact absurd rfl h
  · exact absurd rfl h
  · rfl

lemma locals_after (out : Frame × Except Fault Flow) : (Frame.after out).locals = out.1.locals := by
  rcases out with ⟨f,_ | _ | _ | _⟩ <;> rfl

/-- From inside a program control goes to a position inside it or just behind its end. -/
lemma ip_after_le {length : Nat} {i : Instruction} {f : Frame} (h : f.ip < length) :
    (Frame.after (step length i f)).ip ≤ length := by
  have hip := ip_step length i f
  rcases hs : step length i f with ⟨g,e | _ | n | v⟩ <;> simp only [hs] at hip
  · change g.ip ≤ length
    omega
  · change g.ip + 1 ≤ length
    omega
  · exact step_jump_le (congrArg Prod.snd hs)
  · change g.ip ≤ length
    omega

end Frame

namespace Run

/-- What every round keeps. A run stops inside the program, unless it ran off its end. -/
structure Sound (p : Program) (capacity : Nat) (r : Run σ) : Prop where
  ip_le : r.frame.ip ≤ p.size
  slots : r.frame.locals.size = capacity
  ended : r.status = .ended → r.frame.ip = p.size
  stopped : r.status ≠ .running → r.status ≠ .ended → r.frame.ip < p.size

lemma sound_start (p : Program) (capacity : Nat) (sink : σ) : (start capacity sink).Sound p capacity where
  ip_le := Nat.zero_le _
  slots := Array.size_replicate
  ended h := by cases h
  stopped h := absurd rfl h

lemma Sound.runOff {r : Run σ} (h : r.Sound p capacity) (hn : p.get? r.frame.ip = none) :
    { r with status := .ended }.Sound p capacity where
  ip_le := h.ip_le
  slots := h.slots
  ended _ := Nat.le_antisymm h.ip_le (Program.get?_eq_none_iff.mp hn)
  stopped _ hne := absurd rfl hne

variable [Sink σ]

lemma Sound.exec {r : Run σ} (h : r.Sound p capacity) {i : Instruction} (hi : p.get? r.frame.ip = some i) :
    (r.exec p i).Sound p capacity := by
  have hlt : r.frame.ip < p.size := Program.exists_get?_iff.mp ⟨i,hi⟩
  rw [exec_eq]
  constructor
  · exact Frame.ip_after_le hlt
  · change (Frame.after _).locals.size = _
    rw [Frame.locals_after, size_locals_step, h.slots]
  · intro he
    exact absurd he (Status.after_ne_ended _)
  · intro hr _
    change (Frame.after _).ip < _
    rwa [Frame.after_of_ne_running hr, ip_step]

/-- No operation of the next round reaches outside the program or the local table. -/
structure InBounds (p : Program) (capacity : Nat) (r : Run σ) : Prop where
  ip_le : r.frame.ip ≤ p.size
  slots : r.frame.locals.size = capacity
  fetches : r.status = .running →
    ((∃ i, p.get? r.frame.ip = some i ∧ r.round p = r.exec p i) ↔ r.frame.ip < p.size)
  advances : ∀ i f, r.status = .running → p.get? r.frame.ip = some i →
    step p.size i r.frame = (f, .ok .next) → f.ip + 1 ≤ p.size ∧
      (p.size < UInt64.size → f.advanceIp.ip = f.ip + 1 ∧ (r.round p).frame = f.advanceIp)
  loads : ∀ index f, step p.size (.loadLocal index) r.frame = (f, .ok .next) →
    ∃ (slot : Nat) (v : Word), index.toInt = slot ∧ slot < capacity ∧
      r.frame.locals[slot]? = some v ∧ f = r.frame.push v
  stores : ∀ index f, step p.size (.storeLocal index) r.frame = (f, .ok .next) →
    ∃ (slot : Nat) (v : Word), index.toInt = slot ∧ slot < capacity ∧
      r.frame.stack.head? = some v ∧ f.locals[slot]? = some v

/-- Going on to the next instruction, the 64-bit instruction pointer does not wrap. -/
lemma round_next {r : Run σ} {i : Instruction} {f : Frame}
    (hi : p.get? r.frame.ip = some i) (hs : step p.size i r.frame = (f, .ok .next)) :
    f.ip + 1 ≤ p.size ∧
      (p.size < UInt64.size → f.advanceIp.ip = f.ip + 1 ∧ (r.round p).frame = f.advanceIp) := by
  have hlt : r.frame.ip < p.size := Program.exists_get?_iff.mp ⟨i,hi⟩
  have hip : f.ip = r.frame.ip := (steps_iff.mpr hs).ip_eq
  refine ⟨by omega,?_⟩
  intro hsize
  have hmod : (f.ip + 1) % UInt64.size = f.ip + 1 := Nat.mod_eq_of_lt (by omega)
  refine ⟨hmod,?_⟩
  rw [round_of_fetch hi, exec_eq, hs]
  simp only [Frame.after, Frame.setIp, Frame.advanceIp, hmod]

theorem Sound.inBounds {r : Run σ} (h : r.Sound p capacity) : r.InBounds p capacity where
  ip_le := h.ip_le
  slots := h.slots
  fetches _ := by
    rw [← Program.exists_get?_iff]
    constructor
    · rintro ⟨i,hi,_⟩
      exact ⟨i,hi⟩
    · rintro ⟨i,hi⟩
      exact ⟨i,hi,round_of_fetch hi⟩
  advances _ _ _ hi hs := round_next hi hs
  loads index f hs := by
    cases steps_iff.mpr hs with
    | @load _ v slot inside value =>
      have hslot := boundedIndex?_eq_some_iff.mp inside
      exact ⟨slot,v,hslot.1,h.slots ▸ hslot.2,value,rfl⟩
    | arithmetic operation => cases operation
    | fallThrough fails => cases fails
  stores index f hs := by
    cases steps_iff.mpr hs with
    | @store _ v slot rest operand inside =>
      have hslot := boundedIndex?_eq_some_iff.mp inside
      refine ⟨slot,v,hslot.1,h.slots ▸ hslot.2,by rw [operand]; rfl,?_⟩
      exact Array.getElem?_setIfInBounds_self_of_lt hslot.2
    | arithmetic operation => cases operation
    | fallThrough fails => cases fails

end Run

namespace Program

variable [Sink σ]

theorem sound_runTraced (p : Program) (n capacity : Nat) (sink : σ) :
    (p.runTraced n capacity sink).Sound p capacity :=
  Run.rounds_invariant (fun _ h hn => h.runOff hn) (fun _ _ h hi => h.exec hi) n
    (Run.sound_start p capacity sink)

lemma ended_of_ip_eq_size {n : Nat} {sink : σ} (h : (p.runTraced n capacity sink).frame.ip = p.size) :
    ∃ m, (p.runTraced m capacity sink).status = .ended := by
  by_cases hr : (p.runTraced n capacity sink).status = .running
  · refine ⟨n + 1,?_⟩
    rw [runTraced_succ hr, Run.round_of_end (get?_eq_none_iff.mpr (Nat.le_of_eq h.symm))]
  · by_cases he : (p.runTraced n capacity sink).status = .ended
    · exact ⟨n,he⟩
    -- A return and a fault leave the instruction pointer inside the program.
    · have hlt := (sound_runTraced p n capacity sink).stopped hr he
      omega

/-- After any number of rounds a run is in bounds, and it runs off the end of its program exactly if its
instruction pointer reaches the position behind the last instruction. -/
theorem runTraced_inBounds (p : Program) (capacity : Nat) (sink : σ) :
    (∀ n, (p.runTraced n capacity sink).InBounds p capacity) ∧
    (p.EndsWith capacity sink (.ok none) ↔ ∃ n, (p.runTraced n capacity sink).frame.ip = p.size) := by
  refine ⟨fun n => (sound_runTraced p n capacity sink).inBounds,?_⟩
  constructor
  · rintro ⟨n,hn⟩
    exact ⟨n,(sound_runTraced p n capacity sink).ended (Status.outcome?_eq_ok_none_iff.mp hn)⟩
  · rintro ⟨n,hn⟩
    obtain ⟨m,hm⟩ := ended_of_ip_eq_size hn
    exact ⟨m,Status.outcome?_eq_ok_none_iff.mpr hm⟩

end Program

end StackMachine
