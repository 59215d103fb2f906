import StackMachine.Proofs.Failure
import StackMachine.Proofs.Observation

/-! What a run has done decides what it holds. Each local has the value that was stored in it last, and the
depth of the stack is found by counting the operations that were completed, whatever their values are. -/
namespace StackMachine

/-! ### What one step does to the stack and to the locals -/

/-- How many values the operation leaves on the stack when it goes through. -/
def Opcode.stackOutputs : Opcode → Nat
  | .pushConstant | .loadLocal | .add | .subtract | .multiply | .divide => 1
  | .storeLocal | .branchIfEqual | .branchIfNotEqual | .jump | .return => 0

namespace Steps

variable {length : Nat} {f g : Frame} {i : Instruction} {result : Except Fault Flow} {flow : Flow}

lemma stackInputs_le (h : Steps length f i g (.ok flow)) : i.opcode.stackInputs ≤ f.depth := by
  apply Nat.le_of_not_lt
  intro few
  obtain ⟨_,hresult⟩ := Prod.mk.inj (h.eq_step.symm.trans (step_of_depth_lt few))
  cases hresult

/-- A step that goes through takes its operands off the stack and puts its results in their place. -/
lemma stack_eq (h : Steps length f i g (.ok flow)) :
    ∃ pushed : List Word, pushed.length = i.opcode.stackOutputs ∧
      g.stack = pushed ++ f.stack.drop i.opcode.stackInputs := by
  cases h with
  | push v => exact ⟨[v],rfl,rfl⟩
  | @load _ v => exact ⟨[v],rfl,rfl⟩
  | store => exact ⟨[],rfl,rfl⟩
  | @arithmetic _ op a b _ operation =>
    cases i with
    | add | subtract | multiply => exact ⟨[op a b],rfl,rfl⟩
    | _ => cases operation
  | @divide a b => exact ⟨[a / b],rfl,rfl⟩
  | fallThrough fails => cases fails <;> exact ⟨[],rfl,rfl⟩
  | goTo goes => cases goes <;> exact ⟨[],rfl,rfl⟩
  | «return» => exact ⟨[],rfl,rfl⟩

/-- Only a return goes back to the caller. -/
lemma opcode_ne_return (h : Steps length f i g (.ok flow)) (hgoes : ∀ v, flow ≠ .return v) :
    i.opcode ≠ .return := by
  cases h with
  | «return» => exact absurd rfl (hgoes _)
  | arithmetic operation =>
    cases i with
    | add | subtract | multiply => simp [Instruction.opcode]
    | _ => cases operation
  | fallThrough fails => cases fails <;> simp [Instruction.opcode]
  | goTo goes => cases goes <;> simp [Instruction.opcode]
  | _ => simp [Instruction.opcode]

lemma depth_eq (h : Steps length f i g (.ok flow)) :
    (g.depth : Int) = f.depth - i.opcode.stackInputs + i.opcode.stackOutputs := by
  obtain ⟨pushed,hlength,hstack⟩ := h.stack_eq
  have hle := h.stackInputs_le
  simp only [Frame.depth] at hle ⊢
  rw [hstack, List.length_append, List.length_drop, hlength]
  omega

/-- A step leaves the locals alone, unless it is a store that goes through. -/
lemma locals_cases (h : Steps length f i g result) :
    g.locals = f.locals ∧ (result.isOk = true → ∀ index, i ≠ .storeLocal index) ∨
    ∃ index v rest, ∃ slot : Nat, i = .storeLocal index ∧ result = .ok .next ∧ f.stack = v :: rest ∧
      index.toInt = slot ∧ slot < f.locals.size ∧ g.locals = f.locals.setIfInBounds slot v := by
  cases h with
  | @store index v slot rest operand inside =>
    have hslot := boundedIndex?_eq_some_iff.mp inside
    exact .inr ⟨index,v,rest,slot,rfl,rfl,operand,hslot.1,hslot.2,rfl⟩
  | arithmetic operation =>
    refine .inl ⟨rfl,?_⟩
    rintro _ index rfl
    cases operation
  | fallThrough fails =>
    refine .inl ⟨rfl,?_⟩
    rintro _ index rfl
    cases fails
  | goTo goes =>
    refine .inl ⟨rfl,?_⟩
    rintro _ index rfl
    cases goes
  | push | load | divide | «return» => exact .inl ⟨rfl,by simp⟩
  | underflow | loadOutside | storeOutside | divideByZero | goOutside =>
    refine .inl ⟨rfl,?_⟩
    intro hok
    cases hok

end Steps

lemma Status.after_eq_running_iff {result : Except Fault Flow} :
    Status.after result = .running ↔ ∃ flow, result = .ok flow ∧ ∀ v, flow ≠ .return v := by
  rcases result with _ | _ | _ | _ <;> simp [Status.after]

lemma Frame.stack_after (out : Frame × Except Fault Flow) : (Frame.after out).stack = out.1.stack := by
  rcases out with ⟨f,_ | _ | _ | _⟩ <;> rfl

/-! ### The instructions that were completed -/

namespace Program

/-- The instruction of the entry goes through, that is, it meets no fault. -/
def completes (p : Program) (e : Entry) : Bool :=
  (p.get? e.ip).any fun i => (step p.size i e.frame).2.isOk

/-- The entries of the instructions that a run of at most `budget` rounds completes, in order. -/
def completed (p : Program) (budget capacity : Nat) : List Entry :=
  (p.trace budget capacity).filter p.completes

/-- The instruction of the entry is a store to `slot`. -/
def StoresTo (p : Program) (slot : Nat) (e : Entry) : Prop :=
  ∃ index, p.get? e.ip = some (.storeLocal index) ∧ index.toInt = slot

/-- The value that the entries leave in `slot`: the one on top of the stack where the latest store to it was
fetched, and zero if none of them is a store to it. -/
inductive LastStored (p : Program) (slot : Nat) (es : List Entry) : Word → Prop
  | nothing (absent : ∀ e ∈ es, ¬ p.StoresTo slot e) : LastStored p slot es 0
  | stored {before behind : List Entry} {e : Entry} {v : Word} (split : es = before ++ e :: behind)
      (store : p.StoresTo slot e) (latest : ∀ e ∈ behind, ¬ p.StoresTo slot e)
      (top : e.stack.getLast? = some v) : LastStored p slot es v

variable {σ : Type} [Sink σ] {p : Program} {n capacity slot : Nat} {sink : σ} {f : Frame} {i : Instruction}

lemma completes_capture (k : Nat) (hi : p.get? f.ip = some i) :
    p.completes (Entry.capture k f i) = (step p.size i f).2.isOk := by
  simp only [completes, Entry.frame_capture]
  simp only [Entry.capture, hi, Option.any_some]

lemma completed_succ (hr : (p.runTraced n capacity sink).status = .running)
    (hi : p.get? (p.runTraced n capacity sink).frame.ip = some i) :
    p.completed (n + 1) capacity = p.completed n capacity ++
      if (step p.size i (p.runTraced n capacity sink).frame).2.isOk then
        [Entry.capture (p.runTraced n capacity sink).steps (p.runTraced n capacity sink).frame i]
      else [] := by
  simp only [completed, trace_succ hr hi, List.filter_append, List.filter_cons, List.filter_nil,
    completes_capture _ hi]

lemma completed_succ_of_ok {flow : Flow} (hr : (p.runTraced n capacity sink).status = .running)
    (hi : p.get? (p.runTraced n capacity sink).frame.ip = some i)
    (hflow : (step p.size i (p.runTraced n capacity sink).frame).2 = .ok flow) :
    p.completed (n + 1) capacity = p.completed n capacity ++
      [Entry.capture (p.runTraced n capacity sink).steps (p.runTraced n capacity sink).frame i] := by
  rw [completed_succ hr hi, hflow]
  rfl

lemma completed_succ_of_no_fetch (h : (p.runTraced n capacity sink).status ≠ .running ∨
    p.get? (p.runTraced n capacity sink).frame.ip = none) :
    p.completed (n + 1) capacity = p.completed n capacity := by
  simp only [completed, trace_succ_of_no_fetch h]

/-! ### Locals hold the last store -/

lemma LastStored.concat_of_not {es : List Entry} {e : Entry} {v : Word} (h : p.LastStored slot es v)
    (hother : ¬ p.StoresTo slot e) : p.LastStored slot (es ++ [e]) v := by
  have hbehind {es : List Entry} (h : ∀ e ∈ es, ¬ p.StoresTo slot e) : ∀ e' ∈ es ++ [e], ¬ p.StoresTo slot e' := by
    rw [List.forall_mem_append, List.forall_mem_singleton]
    exact ⟨h,hother⟩
  cases h with
  | nothing absent => exact .nothing (hbehind absent)
  | @stored before behind last _ split store latest top =>
    have hsplit : es ++ [e] = before ++ last :: (behind ++ [e]) := by
      rw [split, List.append_assoc, List.cons_append]
    exact .stored hsplit store (hbehind latest) top

lemma LastStored.concat {e : Entry} {v : Word} (es : List Entry) (store : p.StoresTo slot e)
    (top : e.stack.getLast? = some v) : p.LastStored slot (es ++ [e]) v :=
  .stored rfl store (fun _ h => absurd h List.not_mem_nil) top

/-- What a round does to the locals: nothing, unless it completes a store, which then puts the value on top of the
stack in its slot. -/
lemma completed_succ_cases (p : Program) (n capacity : Nat) (sink : σ) :
    ((p.runTraced (n + 1) capacity sink).frame.locals = (p.runTraced n capacity sink).frame.locals ∧
      (p.completed (n + 1) capacity = p.completed n capacity ∨
        ∃ e, p.completed (n + 1) capacity = p.completed n capacity ++ [e] ∧
          ∀ index, p.get? e.ip ≠ some (.storeLocal index))) ∨
    ∃ e index v, ∃ slot : Fin capacity, p.completed (n + 1) capacity = p.completed n capacity ++ [e] ∧
      p.get? e.ip = some (.storeLocal index) ∧ index.toInt = slot.val ∧ e.stack.getLast? = some v ∧
      (p.runTraced (n + 1) capacity sink).frame.locals =
        (p.runTraced n capacity sink).frame.locals.setIfInBounds slot.val v := by
  obtain ⟨hr,he⟩ | ⟨hr,⟨hi,he⟩ | ⟨i,hi,he⟩⟩ := runTraced_succ_cases p n capacity sink
  · exact .inl ⟨by rw [he],.inl (completed_succ_of_no_fetch (.inl hr))⟩
  · exact .inl ⟨by rw [he],.inl (completed_succ_of_no_fetch (.inr hi))⟩
  rw [he, Run.exec_eq, Frame.locals_after]
  obtain ⟨hlocals,hother⟩ | ⟨index,v,rest,j,rfl,hresult,hstack,hindex,hj,hlocals⟩ :=
    (steps_step p.size i (p.runTraced n capacity sink).frame).locals_cases
  · refine .inl ⟨hlocals,?_⟩
    cases hresult : (step p.size i (p.runTraced n capacity sink).frame).2 with
    | error fault =>
      rw [completed_succ hr hi, hresult]
      exact .inl (List.append_nil _)
    | ok flow =>
      refine .inr ⟨_,completed_succ_of_ok hr hi hresult,?_⟩
      intro index hstore
      rw [hresult] at hother
      exact hother rfl index (Option.some.inj (hi.symm.trans hstore))
  · rw [(sound_runTraced p n capacity sink).slots] at hj
    refine .inr ⟨_,index,v,⟨j,hj⟩,completed_succ_of_ok hr hi hresult,hi,hindex,?_,hlocals⟩
    rw [Entry.capture, List.getLast?_reverse, hstack, List.head?_cons]

lemma slot_lt_size (p : Program) (n : Nat) (sink : σ) (slot : Fin capacity) :
    slot.val < (p.runTraced n capacity sink).frame.locals.size := by
  rw [(sound_runTraced p n capacity sink).slots]
  exact slot.isLt

/-- After any number of rounds each local has the value that was stored in it last. -/
lemma lastStored_runTraced (p : Program) (n : Nat) (sink : σ) (slot : Fin capacity) :
    ∃ v, (p.runTraced n capacity sink).frame.locals[slot.val]? = some v ∧
      p.LastStored slot.val (p.completed n capacity) v := by
  induction n with
  | zero =>
    have hnew : (Frame.new capacity).locals[slot.val]? = some 0 := by simp [Frame.new]
    exact ⟨0,hnew,.nothing fun _ h => absurd h List.not_mem_nil⟩
  | succ n ih =>
    obtain ⟨v,hv,hlast⟩ := ih
    obtain ⟨hlocals,hsame | ⟨e,hmore,hother⟩⟩ | ⟨e,index,w,j,hmore,hi,hindex,htop,hlocals⟩ :=
      completed_succ_cases p n capacity sink
    · exact ⟨v,by rw [hlocals, hv],by rwa [hsame]⟩
    · refine ⟨v,by rw [hlocals, hv],hmore ▸ hlast.concat_of_not ?_⟩
      rintro ⟨index,hi,_⟩
      exact hother index hi
    · rw [hlocals, hmore]
      by_cases hj : j = slot
      · subst hj
        exact ⟨w,Array.getElem?_setIfInBounds_self_of_lt (slot_lt_size p n sink j),
          .concat _ ⟨index,hi,hindex⟩ htop⟩
      · have hne : j.val ≠ slot.val := fun h => hj (Fin.ext h)
        refine ⟨v,by rw [Array.getElem?_setIfInBounds_ne hne, hv],hlast.concat_of_not ?_⟩
        rintro ⟨index',hi',hindex'⟩
        rw [hi] at hi'
        cases hi'
        omega

/-- A store that a round completes had a value on top of the stack, and its slot then holds it. -/
lemma exists_stored {e : Entry} {index : Word}
    (hmore : p.completed (n + 1) capacity = p.completed n capacity ++ [e])
    (hi : p.get? e.ip = some (.storeLocal index)) (sink : σ) :
    ∃ (slot : Fin capacity) (v : Word), index.toInt = slot.val ∧ e.stack.getLast? = some v ∧
      (p.runTraced (n + 1) capacity sink).frame.locals[slot.val]? = some v := by
  obtain ⟨_,hsame | ⟨e',hmore',hother⟩⟩ | ⟨e',index',v,slot,hmore',hi',hindex,htop,hlocals⟩ :=
    completed_succ_cases p n capacity sink
  · rw [hmore] at hsame
    exact absurd hsame (by simp)
  · obtain rfl : e = e' := by simpa [hmore] using hmore'
    exact absurd hi (hother index)
  · obtain rfl : e = e' := by simpa [hmore] using hmore'
    obtain rfl : index = index' := by simpa [hi] using hi'
    refine ⟨slot,v,hindex,htop,?_⟩
    rw [hlocals, Array.getElem?_setIfInBounds_self_of_lt (slot_lt_size p n sink slot)]

/-- A round leaves every local as it is, unless it completes a store; then it leaves all but one. -/
lemma locals_succ_cases (p : Program) (n capacity : Nat) (sink : σ) :
    (p.runTraced (n + 1) capacity sink).frame.locals = (p.runTraced n capacity sink).frame.locals ∨
    ∃ e index, p.completed (n + 1) capacity = p.completed n capacity ++ [e] ∧
      p.get? e.ip = some (.storeLocal index) ∧ ∀ slot : Nat, (slot : Int) ≠ index.toInt →
        (p.runTraced (n + 1) capacity sink).frame.locals[slot]? =
          (p.runTraced n capacity sink).frame.locals[slot]? := by
  obtain ⟨hlocals,_⟩ | ⟨e,index,v,j,hmore,hi,hindex,_,hlocals⟩ := completed_succ_cases p n capacity sink
  · exact .inl hlocals
  · refine .inr ⟨e,index,hmore,hi,?_⟩
    intro slot hne
    rw [hlocals, Array.getElem?_setIfInBounds_ne (by omega)]

/-- After any number of rounds each local has the value that was on top of the stack where the latest of the
completed stores to it was fetched, and zero if there was none. A round that completes a store had such a value
and changes no other local than the one that it names; no other round changes a local. -/
theorem locals_lastStored (p : Program) (capacity : Nat) (sink : σ) (n : Nat) :
    (∀ slot : Fin capacity, ∃ v, (p.runTraced n capacity sink).frame.locals[slot.val]? = some v ∧
      p.LastStored slot.val (p.completed n capacity) v) ∧
    (∀ e index, p.completed (n + 1) capacity = p.completed n capacity ++ [e] →
      p.get? e.ip = some (.storeLocal index) →
      ∃ (slot : Fin capacity) (v : Word), index.toInt = slot.val ∧ e.stack.getLast? = some v ∧
        (p.runTraced (n + 1) capacity sink).frame.locals[slot.val]? = some v) ∧
    ((p.runTraced (n + 1) capacity sink).frame.locals = (p.runTraced n capacity sink).frame.locals ∨
      ∃ e index, p.completed (n + 1) capacity = p.completed n capacity ++ [e] ∧
        p.get? e.ip = some (.storeLocal index) ∧ ∀ slot : Nat, (slot : Int) ≠ index.toInt →
          (p.runTraced (n + 1) capacity sink).frame.locals[slot]? =
            (p.runTraced n capacity sink).frame.locals[slot]?) := by
  refine ⟨lastStored_runTraced p n sink,?_,locals_succ_cases p n capacity sink⟩
  intro e index hmore hi
  exact exists_stored hmore hi sink

/-- Two stores to the first slot, and a third one that finds nothing to store. -/
def storedTwice : Program := ofList [.pushConstant 5, .storeLocal 0, .pushConstant 7, .storeLocal 0, .storeLocal 0]

/-- The second store counts, the one that fails does not, and the other slot is never written. -/
theorem locals_lastStored_twice :
    (storedTwice.run 5 2).status = .failed (.stackUnderflow 1 0 4) ∧
    (storedTwice.run 5 2).frame.locals = #[7, 0] ∧
    storedTwice.LastStored 0 (storedTwice.completed 5 2) 7 ∧
    storedTwice.LastStored 1 (storedTwice.completed 5 2) 0 ∧
    ∃ slot : Fin 2, (0 : Word).toInt = slot.val ∧ (storedTwice.run 2 2).frame.locals[slot.val]? = some 5 := by
  obtain ⟨hslots,_⟩ := locals_lastStored storedTwice 2 Silence.mk 5
  obtain ⟨_,hstores,_⟩ := locals_lastStored storedTwice 2 Silence.mk 1
  obtain ⟨v,hv,hfirst⟩ := hslots 0
  obtain ⟨w,hw,hsecond⟩ := hslots 1
  obtain rfl : 7 = v := Option.some.inj hv
  obtain rfl : 0 = w := Option.some.inj hw
  obtain ⟨slot,u,hindex,htop,hu⟩ := hstores (.capture 1 ⟨[5],#[0, 0],1⟩ (.storeLocal 0)) 0 rfl rfl
  obtain rfl : 5 = u := Option.some.inj htop
  exact ⟨rfl,rfl,hfirst,hsecond,slot,hindex,hu⟩

/-! ### Counting operations gives the depth of the stack -/

end Program

/-- How many of the entries are of one of these operations. -/
def occurrences (ops : List Opcode) (es : List Entry) : Nat := es.countP fun e => e.opcode ∈ ops

/-- The depth that the stack should have behind these entries, by their operations alone. -/
def balance (es : List Entry) : Int :=
  occurrences [.pushConstant, .loadLocal] es -
    occurrences [.storeLocal, .add, .subtract, .multiply, .divide] es -
    2 * occurrences [.branchIfEqual, .branchIfNotEqual] es

/-- Counting agrees with what each operation takes from the stack and leaves on it. Only a return is not
counted: nothing is fetched behind it. -/
lemma balance_concat (es : List Entry) {e : Entry} (h : e.opcode ≠ .return) :
    balance (es ++ [e]) = balance es - e.opcode.stackInputs + e.opcode.stackOutputs := by
  simp only [balance, occurrences, List.countP_append, List.countP_singleton]
  cases he : e.opcode with
  | «return» => exact absurd he h
  | jump => simp [Opcode.stackInputs, Opcode.stackOutputs]
  | _ =>
    simp [Opcode.stackInputs, Opcode.stackOutputs]
    omega

namespace Program

variable {σ : Type} [Sink σ] {p : Program} {n capacity : Nat} {sink : σ} {i : Instruction}

/-- While a run is under way, counting what it has completed gives the depth of its stack. -/
lemma depth_eq_balance (hr : (p.runTraced n capacity sink).status = .running) :
    ((p.runTraced n capacity sink).frame.depth : Int) = balance (p.completed n capacity) := by
  induction n with
  | zero => rfl
  | succ n ih =>
    obtain ⟨hover,he⟩ | ⟨hn,⟨_,he⟩ | ⟨i,hi,he⟩⟩ := runTraced_succ_cases p n capacity sink <;> rw [he] at hr
    · exact absurd hr hover
    · cases hr
    · rw [Run.exec_eq] at hr
      obtain ⟨flow,hflow,hgoes⟩ := Status.after_eq_running_iff.mp hr
      have hs := steps_step p.size i (p.runTraced n capacity sink).frame
      rw [hflow] at hs
      have hop : i.opcode ≠ .return := hs.opcode_ne_return hgoes
      have hdepth : ((p.runTraced n capacity sink).exec p i).frame.depth =
          (step p.size i (p.runTraced n capacity sink).frame).1.depth := by
        rw [Run.exec_eq, Frame.depth, Frame.stack_after, Frame.depth]
      rw [he, completed_succ_of_ok hn hi hflow, balance_concat _ hop, ← ih hn, hdepth]
      exact hs.depth_eq

lemma fails_stackUnderflow_iff {length required available ip : Nat} {f : Frame} :
    Fails length capacity f i (.stackUnderflow required available ip) ↔
      f.depth < i.opcode.stackInputs ∧ required = i.opcode.stackInputs ∧ available = f.depth ∧ ip = f.ip := by
  constructor
  · intro h
    cases h with
    | underflow few => exact ⟨few,rfl,rfl,rfl⟩
  · rintro ⟨few,rfl,rfl,rfl⟩
    exact .underflow few

/-- Wherever an instruction is fetched, the depth of the stack is what the operations completed before come to: one
more for each push, one less for each store and each arithmetic operation, two less for each branch. The run
fails for want of operands there exactly if this is less than what the operation takes. -/
theorem depth_at_fetch (p : Program) (n capacity : Nat) (sink : σ)
    (hr : (p.runTraced n capacity sink).status = .running)
    (hi : p.get? (p.runTraced n capacity sink).frame.ip = some i) :
    ((p.runTraced n capacity sink).frame.depth : Int) = balance (p.completed n capacity) ∧
    ∀ required available ip,
      (p.runTraced (n + 1) capacity sink).status = .failed (.stackUnderflow required available ip) ↔
        balance (p.completed n capacity) < i.opcode.stackInputs ∧
        required = i.opcode.stackInputs ∧ available = balance (p.completed n capacity) ∧
        ip = (p.runTraced n capacity sink).frame.ip := by
  have hdepth := depth_eq_balance hr
  refine ⟨hdepth,?_⟩
  intro required available ip
  rw [runTraced_succ hr, Run.round_of_fetch hi, exec_failed_iff, fails_stackUnderflow_iff, ← hdepth]
  simp only [Int.ofNat_lt, Int.ofNat_inj]

/-- Three values are pushed, two of them added and a branch taken. -/
def spent : Program :=
  ofList [.pushConstant 1, .pushConstant 1, .pushConstant 1, .add, .branchIfEqual 5, .return]

/-- Nothing is left for the return. -/
theorem depth_at_fetch_branch :
    balance (spent.completed 5 0) = 0 ∧
    (spent.runTraced 6 0 Silence.mk).status = .failed (.stackUnderflow 1 0 5) := by
  have h := depth_at_fetch (i := .return) spent 5 0 Silence.mk rfl rfl
  have hbalance := h.1.symm
  refine ⟨hbalance,(h.2 1 0 5).mpr ?_⟩
  rw [hbalance]
  exact ⟨by decide,rfl,rfl,rfl⟩

end Program
end StackMachine
