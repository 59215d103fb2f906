import StackMachine.Proofs.Observation
import StackMachine.Proofs.Step

/-! Two machines side by side. A correspondence says how the stack and the local table of one machine are
found in those of another. All that it has to agree with is pushing, popping and reaching a slot; then each
step, each run and each trace of the one machine is followed by the other. -/
namespace StackMachine

/-- How the data of one machine are found in another. -/
structure Correspondence where
  stackRel : List Word → List Word → Prop
  tableRel : Array Word → Array Word → Prop
  /-- Indices by which programs for the two machines mean the same local. -/
  indexRel : Word → Word → Prop
  push {s t : List Word} (v : Word) (h : stackRel s t) : stackRel (v :: s) (v :: t)
  pop {s t : List Word} {v : Word} (h : stackRel (v :: s) t) : ∃ t', t = v :: t' ∧ stackRel s t'
  slot {a b : Array Word} {index index' : Word} {n : Nat} (h : tableRel a b) (named : indexRel index index')
    (inside : slot? index a.size = some n) :
    ∃ n', slot? index' b.size = some n' ∧ b[n']? = a[n]? ∧
      ∀ v, tableRel (a.setIfInBounds n v) (b.setIfInBounds n' v)
  /-- In tables of the same size an index that means no local is written the same. -/
  outside {a b : Array Word} {index index' : Word} (h : tableRel a b) (named : indexRel index index')
    (outside : slot? index a.size = none) (size : b.size = a.size) : index' = index

/-- Both machines hold the same data. -/
def Correspondence.same : Correspondence where
  stackRel s t := t = s
  tableRel a b := b = a
  indexRel index index' := index' = index
  push v h := by rw [h]
  pop h := ⟨_,h,rfl⟩
  slot := by
    rintro a _ index _ n rfl rfl inside
    exact ⟨n,inside,rfl,fun _ => rfl⟩
  outside _ named _ _ := named

/-- The index of the local that the instruction reads or writes. -/
def Instruction.localIndex? : Instruction → Option Word
  | .loadLocal index | .storeLocal index => some index
  | _ => none

/-- Instructions that differ at most in the index of a local. -/
inductive Instruction.Renamed (indices : Word → Word → Prop) : Instruction → Instruction → Prop
  | load {index index' : Word} (named : indices index index') :
      Renamed indices (.loadLocal index) (.loadLocal index')
  | store {index index' : Word} (named : indices index index') :
      Renamed indices (.storeLocal index) (.storeLocal index')
  | same {i : Instruction} (other : i.localIndex? = none) : Renamed indices i i

/-- Run a program from the frame `f`, for at most `budget` rounds, under the eyes of a sink. -/
def Program.runFrom {σ : Type} [Sink σ] (p : Program) (budget : Nat) (f : Frame) (sink : σ) : Run σ :=
  Run.rounds p budget ⟨f, 0, sink, .running⟩

/-- The bound that a fault quotes is the same for a machine in `f` and a machine in `g`, which run programs
of `length` and of `length'` instructions. -/
def Fault.SameBound (length length' : Nat) (f g : Frame) : Fault → Prop
  | .stackUnderflow _ _ _ => g.depth = f.depth
  | .indexOutOfRange .localSlot _ _ _ => g.locals.size = f.locals.size
  | .indexOutOfRange .jumpTarget _ _ _ => length' = length
  | _ => True

/-- A fault quotes at most one bound, so it is enough that this one is the same. -/
lemma Fault.sameBound_of {length length' : Nat} {f g : Frame} {e : Fault}
    (hdepth : (∀ required available ip, e ≠ .stackUnderflow required available ip) ∨ g.depth = f.depth)
    (hsize : (∀ index limit ip, e ≠ .indexOutOfRange .localSlot index limit ip) ∨
      g.locals.size = f.locals.size)
    (hlength : (∀ index limit ip, e ≠ .indexOutOfRange .jumpTarget index limit ip) ∨ length' = length) :
    e.SameBound length length' f g := by
  cases e with
  | stackUnderflow required available ip => exact hdepth.resolve_left fun h => h _ _ _ rfl
  | indexOutOfRange kind index limit ip =>
    cases kind with
    | localSlot => exact hsize.resolve_left fun h => h _ _ _ rfl
    | jumpTarget => exact hlength.resolve_left fun h => h _ _ _ rfl
  | undecodable | divisionByZero => trivial

namespace Instruction.Renamed

variable {indices : Word → Word → Prop} {i i' : Instruction}

lemma opcode_eq (h : Renamed indices i i') : i'.opcode = i.opcode := by
  cases h <;> rfl

lemma eq_of_localIndex? (h : Renamed indices i i') (other : i.localIndex? = none) : i' = i := by
  cases h with
  | load | store => cases other
  | same => rfl

lemma refl (hindices : ∀ index, indices index index) (i : Instruction) : Renamed indices i i := by
  cases i with
  | loadLocal index => exact .load (hindices index)
  | storeLocal index => exact .store (hindices index)
  | _ => exact .same rfl

end Instruction.Renamed

lemma localIndex?_of_arithmetic? {i : Instruction} {op : Word → Word → Word}
    (operation : i.arithmetic? = some op) : i.localIndex? = none := by
  cases i with
  | add | subtract | multiply => rfl
  | _ => cases operation

lemma GoesTo.localIndex? {f : Frame} {target : Word} {i : Instruction} (goes : GoesTo f target i) :
    i.localIndex? = none := by
  cases goes <;> rfl

lemma FallsThrough.localIndex? {f : Frame} {i : Instruction} (fails : FallsThrough f i) :
    i.localIndex? = none := by
  cases fails <;> rfl

/-- An index below a bound is below every greater one. -/
lemma boundedIndex?_of_le {index : Word} {limit limit' n : Nat} (h : boundedIndex? index limit = some n)
    (hle : limit ≤ limit') : boundedIndex? index limit' = some n := by
  have hn := boundedIndex?_eq_some_iff.mp h
  exact boundedIndex?_eq_some_iff.mpr ⟨hn.1,by omega⟩

namespace Correspondence

variable {σ τ : Type} {C : Correspondence} {p q : Program}

/-- Values on top of a stack are on top of a corresponding one. -/
lemma pop_append {s t : List Word} (operands : List Word) (h : C.stackRel (operands ++ s) t) :
    ∃ t', t = operands ++ t' ∧ C.stackRel s t' := by
  induction operands generalizing t with
  | nil => exact ⟨t,rfl,h⟩
  | cons v operands ih =>
    obtain ⟨t',rfl,ht'⟩ := C.pop h
    obtain ⟨t'',rfl,ht''⟩ := ih ht'
    exact ⟨t'',rfl,ht''⟩

/-- Frames at the same instruction whose data correspond. -/
structure Frames (C : Correspondence) (f g : Frame) : Prop where
  stack : C.stackRel f.stack g.stack
  locals : C.tableRel f.locals g.locals
  ip : g.ip = f.ip

namespace Frames

variable {f g : Frame}

lemma push (h : C.Frames f g) (v : Word) : C.Frames (f.push v) (g.push v) :=
  ⟨C.push v h.stack,h.locals,h.ip⟩

lemma setIp (h : C.Frames f g) (ip : Nat) : C.Frames (f.setIp ip) (g.setIp ip) :=
  ⟨h.stack,h.locals,rfl⟩

lemma operand (h : C.Frames f g) {v : Word} {rest : List Word} (hs : f.stack = v :: rest) :
    ∃ rest', g.stack = v :: rest' := by
  obtain ⟨rest',ht,_⟩ := C.pop (hs ▸ h.stack)
  exact ⟨rest',ht⟩

lemma operands (h : C.Frames f g) {a b : Word} {rest : List Word} (hs : f.stack = a :: b :: rest) :
    ∃ rest', g.stack = a :: b :: rest' := by
  obtain ⟨rest',ht,_⟩ := C.pop_append [a,b] (hs ▸ h.stack)
  exact ⟨rest',ht⟩

/-- An instruction that has its operands takes the same ones from both stacks. -/
lemma consume (h : C.Frames f g) {i i' : Instruction} (hop : i'.opcode = i.opcode)
    (enough : i.opcode.stackInputs ≤ f.depth) : C.Frames (f.consume i) (g.consume i') := by
  have hlength : (f.stack.take i.opcode.stackInputs).length = i.opcode.stackInputs :=
    List.length_take_of_le enough
  have hs := h.stack
  rw [← List.take_append_drop i.opcode.stackInputs f.stack] at hs
  obtain ⟨t,ht,hdrop⟩ := C.pop_append _ hs
  refine ⟨?_,h.locals,h.ip⟩
  simp only [Frame.consume, hop, ht]
  rwa [List.drop_left' hlength]

lemma goesTo (h : C.Frames f g) {target : Word} {i : Instruction} (goes : GoesTo f target i) :
    GoesTo g target i := by
  cases goes with
  | jump => exact .jump
  | equal hs =>
    obtain ⟨rest',ht⟩ := h.operands hs
    exact .equal ht
  | notEqual hs differ =>
    obtain ⟨rest',ht⟩ := h.operands hs
    exact .notEqual ht differ

lemma fallsThrough (h : C.Frames f g) {i : Instruction} (fails : FallsThrough f i) : FallsThrough g i := by
  cases fails with
  | equal hs differ =>
    obtain ⟨rest',ht⟩ := h.operands hs
    exact .equal ht differ
  | notEqual hs =>
    obtain ⟨rest',ht⟩ := h.operands hs
    exact .notEqual ht

variable {length length' : Nat} {i i' : Instruction}

/-- Without its operands an instruction fails in both frames, if both stacks are equally deep. -/
lemma steps_underflow (h : C.Frames f g) (hi : i.Renamed C.indexRel i') (few : f.depth < i.opcode.stackInputs)
    (hdepth : g.depth = f.depth) :
    Steps length' g i' g (.error (.stackUnderflow i.opcode.stackInputs f.depth f.ip)) := by
  rw [← hi.opcode_eq, ← hdepth, ← h.ip]
  apply Steps.underflow
  rwa [hdepth, hi.opcode_eq]

/-- An index that means no local means none in an equally large table, and it is the same fault. -/
lemma slot_outside (h : C.Frames f g) {index index' : Word} (named : C.indexRel index index')
    (outside : slot? index f.locals.size = none) (hsize : g.locals.size = f.locals.size) :
    index' = index ∧ slot? index g.locals.size = none ∧
      Fault.indexOutOfRange .localSlot index f.locals.size f.ip =
        .indexOutOfRange .localSlot index g.locals.size g.ip := by
  refine ⟨C.outside h.locals named outside hsize,?_,?_⟩
  · rwa [hsize]
  · rw [hsize, h.ip]

/-- What a rule does in `f`, the same rule does in a corresponding frame, unless it ends in a fault that
quotes a bound in which the two machines differ. -/
theorem steps (h : C.Frames f g) (hi : i.Renamed C.indexRel i') (hle : length ≤ length') {f' : Frame}
    {result : Except Fault Flow} (hs : Steps length f i f' result)
    (bound : ∀ e, result = .error e → e.SameBound length length' f g) :
    ∃ g', Steps length' g i' g' result ∧ C.Frames f' g' := by
  by_cases few : f.depth < i.opcode.stackInputs
  · obtain ⟨rfl,rfl⟩ := Prod.mk.inj (hs.eq_step.symm.trans (step_of_depth_lt few))
    exact ⟨g,h.steps_underflow hi few (bound _ rfl),h⟩
  -- From here on both stacks hold the operands, and taking these leaves frames that correspond.
  have hrest := h.consume hi.opcode_eq (Nat.not_lt.mp few)
  cases hs with
  | underflow few' => exact absurd few' few
  | push v =>
    obtain rfl := hi.eq_of_localIndex? rfl
    exact ⟨_,.push v,h.push v⟩
  | load inside value =>
    cases hi with
    | load named =>
      obtain ⟨n,hn,hvalue,_⟩ := C.slot h.locals named inside
      exact ⟨_,.load hn (hvalue.trans value),h.push _⟩
    | same other => cases other
  | loadOutside outside =>
    cases hi with
    | load named =>
      obtain ⟨rfl,houtside,hfault⟩ := h.slot_outside named outside (bound _ rfl)
      rw [hfault]
      exact ⟨g,.loadOutside houtside,h⟩
    | same other => cases other
  | store operand inside =>
    cases hi with
    | store named =>
      obtain ⟨rest,hrest'⟩ := h.operand operand
      obtain ⟨n,hn,_,hset⟩ := C.slot h.locals named inside
      exact ⟨_,.store hrest' hn,hrest.stack,hset _,h.ip⟩
    | same other => cases other
  | storeOutside operand outside =>
    cases hi with
    | store named =>
      obtain ⟨rest,hrest'⟩ := h.operand operand
      obtain ⟨rfl,houtside,hfault⟩ := h.slot_outside named outside (bound _ rfl)
      rw [hfault]
      exact ⟨g,.storeOutside hrest' houtside,h⟩
    | same other => cases other
  | arithmetic operation operands =>
    obtain rfl := hi.eq_of_localIndex? (localIndex?_of_arithmetic? operation)
    obtain ⟨rest,hrest'⟩ := h.operands operands
    exact ⟨_,.arithmetic operation hrest',hrest.push _⟩
  | divide operands ha hb =>
    obtain rfl := hi.eq_of_localIndex? rfl
    obtain ⟨rest,hrest'⟩ := h.operands operands
    exact ⟨_,.divide hrest' ha hb,hrest.push _⟩
  | divideByZero operands zero =>
    obtain rfl := hi.eq_of_localIndex? rfl
    obtain ⟨rest,hrest'⟩ := h.operands operands
    rw [← h.ip]
    exact ⟨_,.divideByZero hrest' zero,hrest⟩
  | fallThrough fails =>
    obtain rfl := hi.eq_of_localIndex? fails.localIndex?
    exact ⟨_,.fallThrough (h.fallsThrough fails),hrest⟩
  | goTo goes inside =>
    obtain rfl := hi.eq_of_localIndex? goes.localIndex?
    exact ⟨_,.goTo (h.goesTo goes) (boundedIndex?_of_le inside (Nat.succ_le_succ hle)),hrest⟩
  | goOutside goes outside =>
    obtain rfl := hi.eq_of_localIndex? goes.localIndex?
    obtain rfl : length' = length := bound _ rfl
    rw [← h.ip]
    exact ⟨_,.goOutside (h.goesTo goes) outside,hrest⟩
  | «return» operand =>
    obtain rfl := hi.eq_of_localIndex? rfl
    obtain ⟨rest,hrest'⟩ := h.operand operand
    exact ⟨_,.return hrest',hrest⟩

/-- A step in corresponding frames gives the same result and again corresponding frames. -/
theorem step (h : C.Frames f g) (hi : i.Renamed C.indexRel i') (hle : length ≤ length')
    (bound : ∀ e, (StackMachine.step length i f).2 = .error e → e.SameBound length length' f g) :
    (StackMachine.step length' i' g).2 = (StackMachine.step length i f).2 ∧
      C.Frames (StackMachine.step length i f).1 (StackMachine.step length' i' g).1 := by
  obtain ⟨g',hg,hframes⟩ := h.steps hi hle (steps_step length i f) bound
  rw [hg.eq_step]
  exact ⟨rfl,hframes⟩

lemma after {f' g' : Frame} (h : C.Frames f' g') (result : Except Fault Flow) :
    C.Frames (Frame.after (f', result)) (Frame.after (g', result)) := by
  rcases result with _ | _ | ip | _
  · exact h
  · change C.Frames (f'.setIp (f'.ip + 1)) (g'.setIp (g'.ip + 1))
    rw [h.ip]
    exact h.setIp _
  · exact h.setIp ip
  · exact h

end Frames

/-- Runs whose frames correspond and that have come equally far. -/
structure Runs (C : Correspondence) (r : Run σ) (r' : Run τ) : Prop where
  frame : C.Frames r.frame r'.frame
  steps : r'.steps = r.steps
  status : r'.status = r.status

/-- Wherever a run of `p` gets, `q` has an instruction to follow it; and where it fails, the bound that it
fails by is the same for `q`. -/
structure Along [Sink σ] (C : Correspondence) (p q : Program) (r : Run σ) : Prop where
  size_le : p.size ≤ q.size
  fetch : ∀ n i, (Run.rounds p n r).status = .running → p.get? (Run.rounds p n r).frame.ip = some i →
    ∃ i', q.get? (Run.rounds p n r).frame.ip = some i' ∧ i.Renamed C.indexRel i'
  finish : ∀ n, (Run.rounds p n r).status = .running → p.get? (Run.rounds p n r).frame.ip = none →
    q.get? (Run.rounds p n r).frame.ip = none
  bound : ∀ n e, (Run.rounds p n r).status = .failed e →
    ∀ f g, C.Frames f g → e.SameBound p.size q.size f g

variable [Sink σ] [Sink τ]

lemma Runs.exec {r : Run σ} {r' : Run τ} (h : C.Runs r r') {i i' : Instruction}
    (hi : i.Renamed C.indexRel i') (hle : p.size ≤ q.size)
    (bound : ∀ e, (r.exec p i).status = .failed e → e.SameBound p.size q.size r.frame r'.frame) :
    C.Runs (r.exec p i) (r'.exec q i') := by
  rw [Run.exec_eq] at bound
  simp only [Status.after_eq_failed_iff] at bound
  obtain ⟨hresult,hframe⟩ := h.frame.step hi hle bound
  rw [Run.exec_eq, Run.exec_eq]
  refine ⟨?_,?_,?_⟩
  · change C.Frames (Frame.after (step p.size i r.frame))
      (Frame.after ((step q.size i' r'.frame).1, (step q.size i' r'.frame).2))
    rw [hresult]
    exact hframe.after _
  · simp only [h.steps]
  · simp only [hresult]

/-- A run that starts where `r` does, as the correspondence has it, goes with `r` round by round. -/
theorem Along.runs {r : Run σ} {r' : Run τ} (h : C.Along p q r) (hstart : C.Runs r r') (n : Nat) :
    C.Runs (Run.rounds p n r) (Run.rounds q n r') := by
  induction n with
  | zero => exact hstart
  | succ n ih =>
    obtain ⟨hr,he⟩ | ⟨hr,⟨hi,he⟩ | ⟨i,hi,he⟩⟩ := Run.rounds_succ_cases p n r <;> rw [he] <;>
      rw [← ih.status] at hr
    · rwa [Run.rounds_succ_of_over hr]
    · have hend := h.finish n (ih.status ▸ hr) hi
      rw [← ih.frame.ip] at hend
      rw [Run.rounds_succ_last hr, Run.round_of_end hend]
      exact ⟨ih.frame,ih.steps,rfl⟩
    · obtain ⟨i',hi',hrenamed⟩ := h.fetch n i (ih.status ▸ hr) hi
      rw [← ih.frame.ip] at hi'
      rw [Run.rounds_succ_last hr, Run.round_of_fetch hi']
      apply ih.exec hrenamed h.size_le
      intro e hfailed
      exact h.bound (n + 1) e (he ▸ hfailed) _ _ ih.frame

lemma Along.runs_start {capacity : Nat} {sink : σ} (h : C.Along p q (Run.start capacity sink)) {g : Frame}
    (hstart : C.Frames (Frame.new capacity) g) (sink' : τ) (n : Nat) :
    C.Runs (p.runTraced n capacity sink) (q.runFrom n g sink') := by
  apply h.runs
  exact ⟨hstart,rfl,rfl⟩

/-- Runs that go together and fetch the same instructions leave the same trace, up to what the frames
show of the difference between the two machines. -/
theorem trace_eq_map {capacity capacity' : Nat} {sink : σ} {sink' : τ} {shown : Entry → Entry}
    (h : ∀ n, C.Runs (p.runTraced n capacity sink) (q.runTraced n capacity' sink'))
    (fetch : ∀ n, (p.runTraced n capacity sink).status = .running →
      q.get? (p.runTraced n capacity sink).frame.ip = p.get? (p.runTraced n capacity sink).frame.ip)
    (captured : ∀ step f g i, C.Frames f g → Entry.capture step g i = shown (Entry.capture step f i))
    (n : Nat) : q.trace n capacity' = (p.trace n capacity).map shown := by
  induction n with
  | zero => rfl
  | succ n ih =>
    have hn := h n
    obtain ⟨hr,_⟩ | ⟨hr,hfetch⟩ := p.runTraced_succ_cases n capacity sink
    · have hr' := hn.status ▸ hr
      rw [Program.trace_succ_of_no_fetch (.inl hr), Program.trace_succ_of_no_fetch (.inl hr'), ih]
    · have hsame := fetch n hr
      rw [← hn.frame.ip] at hsame
      obtain ⟨hi,_⟩ | ⟨i,hi,_⟩ := hfetch
      · have hi' := hsame.trans (hn.frame.ip ▸ hi)
        rw [Program.trace_succ_of_no_fetch (.inr hi), Program.trace_succ_of_no_fetch (.inr hi'), ih]
      · have hi' := hsame.trans (hn.frame.ip ▸ hi)
        rw [Program.trace_succ hr hi, Program.trace_succ (hn.status.trans hr) hi', hn.steps, ih,
          List.map_append, captured _ _ _ i hn.frame, List.map_singleton]

end Correspondence
end StackMachine
