import StackMachine.Proofs.Bounds

/-! Run-time faults are exact. A fault names the instruction that was fetched last and holds the numbers
that explain it; and an instruction that is fetched where it cannot run always ends the run so. -/
namespace StackMachine

/-- The fault that the instruction `i` meets when it is fetched in `f`, in a program of `length`
instructions with `capacity` locals. An index is only looked at when the operands are there. -/
inductive Fails (length capacity : Nat) (f : Frame) (i : Instruction) : Fault → Prop
  | underflow (few : f.depth < i.opcode.stackInputs) :
      Fails length capacity f i (.stackUnderflow i.opcode.stackInputs f.depth f.ip)
  | divisionByZero {a b : Word} {rest : List Word} (division : i = .divide)
      (operands : f.stack = a :: b :: rest) (zero : a = 0 ∨ b = 0) :
      Fails length capacity f i (.divisionByZero f.ip)
  | slotOutside {index : Word} (enough : i.opcode.stackInputs ≤ f.depth)
      (access : i = .loadLocal index ∨ i = .storeLocal index)
      (outside : index.toInt < 0 ∨ (capacity : Int) ≤ index.toInt) :
      Fails length capacity f i (.indexOutOfRange .localSlot index capacity f.ip)
  | targetOutside {index : Word} (goes : GoesTo f index i)
      (outside : index.toInt < 0 ∨ (length : Int) < index.toInt) :
      Fails length capacity f i (.indexOutOfRange .jumpTarget index length f.ip)

lemma slot?_eq_none_iff {index : Word} {capacity : Nat} :
    slot? index capacity = none ↔ index.toInt < 0 ∨ (capacity : Int) ≤ index.toInt :=
  boundedIndex?_eq_none_iff

lemma target?_eq_none_iff {index : Word} {length : Nat} :
    target? index length = none ↔ index.toInt < 0 ∨ (length : Int) < index.toInt := by
  rw [target?, boundedIndex?_eq_none_iff]
  omega

namespace Fails

variable {length capacity : Nat} {f : Frame} {i : Instruction} {e : Fault}

lemma position_eq (h : Fails length capacity f i e) : e.position = f.ip := by
  cases h <;> rfl

lemma isDecodeError_eq (h : Fails length capacity f i e) : e.isDecodeError = false := by
  cases h <;> rfl

/-- The fault follows from the rules of a step. -/
lemma exists_steps (h : Fails length f.locals.size f i e) : ∃ g, Steps length f i g (.error e) := by
  cases h with
  | underflow few => exact ⟨f,.underflow few⟩
  | divisionByZero division operands zero =>
    subst division
    exact ⟨_,.divideByZero operands zero⟩
  | slotOutside enough access outside =>
    rw [← slot?_eq_none_iff] at outside
    obtain rfl | rfl := access
    · exact ⟨f,.loadOutside outside⟩
    · obtain ⟨v,rest,hs⟩ := exists_operand enough
      exact ⟨f,.storeOutside hs outside⟩
  | targetOutside goes outside => exact ⟨_,.goOutside goes (target?_eq_none_iff.mpr outside)⟩

end Fails

/-- The rules of a step that end in a fault do so for the reasons given. -/
lemma Steps.fails {length : Nat} {f g : Frame} {i : Instruction} {e : Fault}
    (h : Steps length f i g (.error e)) : Fails length f.locals.size f i e := by
  cases h with
  | underflow few => exact .underflow few
  | loadOutside outside =>
    exact .slotOutside (Nat.zero_le _) (.inl rfl) (slot?_eq_none_iff.mp outside)
  | storeOutside operand outside =>
    have enough : 1 ≤ f.depth := by simp [Frame.depth, operand]
    exact .slotOutside enough (.inr rfl) (slot?_eq_none_iff.mp outside)
  | divideByZero operands zero => exact .divisionByZero rfl operands zero
  | goOutside goes outside => exact .targetOutside goes (target?_eq_none_iff.mp outside)

theorem step_error_iff {length : Nat} {f : Frame} {i : Instruction} {e : Fault} :
    (step length i f).2 = .error e ↔ Fails length f.locals.size f i e := by
  constructor
  · intro h
    exact (steps_of_result h).fails
  · intro h
    obtain ⟨g,hg⟩ := h.exists_steps
    rw [hg.eq_step]

namespace Program

variable {σ : Type} [Sink σ] {p : Program} {n capacity : Nat} {sink : σ} {i : Instruction} {e : Fault}

lemma exec_failed_iff : ((p.runTraced n capacity sink).exec p i).status = .failed e ↔
    Fails p.size capacity (p.runTraced n capacity sink).frame i e := by
  have hslots := (sound_runTraced p n capacity sink).slots
  rw [Run.exec_eq, Status.after_eq_failed_iff, step_error_iff, hslots]

/-- What fails is the instruction that is fetched in the last round. -/
lemma exists_fetch_of_failed (h : (p.runTraced n capacity sink).status = .failed e) :
    ∃ m < n, ∃ i, (p.runTraced m capacity sink).status = .running ∧
      p.get? (p.runTraced m capacity sink).frame.ip = some i ∧
      p.runTraced n capacity sink = (p.runTraced m capacity sink).exec p i := by
  have hover : (p.runTraced n capacity sink).status ≠ .running := by simp [h]
  obtain ⟨m,hm,hr,hn⟩ := exists_last_round hover
  cases hi : p.get? (p.runTraced m capacity sink).frame.ip with
  | none =>
    rw [hn, Run.round_of_end hi] at h
    cases h
  | some i => exact ⟨m,hm,i,hr,hi,hn.trans (Run.round_of_fetch hi)⟩

/-- A run that fails does so at the instruction that it fetched last, with the fault that this
instruction meets there; and a run that fetches an instruction which meets a fault fails with it. -/
theorem run_failed_exact (p : Program) (capacity : Nat) :
    (∀ n e, (p.run n capacity).status = .failed e →
      e.isDecodeError = false ∧ e.position < p.size ∧
      ∃ m < n, ∃ i, (p.run m capacity).status = .running ∧
        (p.run m capacity).frame.ip = e.position ∧ p.get? e.position = some i ∧
        p.run n capacity = (p.run m capacity).exec p i ∧
        Fails p.size capacity (p.run m capacity).frame i e) ∧
    (∀ n i e, (p.run n capacity).status = .running →
      p.get? (p.run n capacity).frame.ip = some i →
      Fails p.size capacity (p.run n capacity).frame i e →
      ∀ k > n, (p.run k capacity).status = .failed e) := by
  unfold run
  constructor
  · intro n e he
    obtain ⟨m,hm,i,hr,hi,hn⟩ := exists_fetch_of_failed he
    have hfails := exec_failed_iff.mp (hn ▸ he)
    have hpos := hfails.position_eq
    refine ⟨hfails.isDecodeError_eq,?_,m,hm,i,hr,hpos.symm,hpos ▸ hi,hn,hfails⟩
    rw [hpos]
    exact exists_get?_iff.mp ⟨i,hi⟩
  · intro n i e hr hi hfails k hk
    have hnext : (p.runTraced (n + 1) capacity Silence.mk).status = .failed e := by
      rw [runTraced_succ hr, Run.round_of_fetch hi]
      exact exec_failed_iff.mpr hfails
    rw [runTraced_of_le (by simp [hnext]) hk]
    exact hnext

/-- Storing to a slot that is not there from an empty stack is an underflow, and no matter of the slot. -/
theorem run_failed_exact_store :
    ((ofList [.storeLocal 9]).run 1 1).status = .failed (.stackUnderflow 1 0 0) ∧
    (Fault.stackUnderflow 1 0 0).position < (ofList [.storeLocal 9]).size ∧
    ∀ k > 0, ((ofList [.storeLocal 9]).run k 1).status = .failed (.stackUnderflow 1 0 0) := by
  have h := run_failed_exact (ofList [.storeLocal 9]) 1
  refine ⟨rfl,(h.1 1 _ rfl).2.1,?_⟩
  exact h.2 0 (.storeLocal 9) _ rfl rfl (.underflow Nat.zero_lt_one)

end Program
end StackMachine
