import StackMachine.Proofs.Correspondence

/-! Room that a run does not use makes no difference to it. A run that never asks for more than it has goes
the same way on top of other values, with more locals, and in a program whose code differs only where the
run does not come. -/
namespace StackMachine

variable {σ τ : Type} {p q : Program} {n capacity : Nat} {outcome : Except Fault (Option Word)}

/-- The frame with the values `below`, the bottom first, under its stack. -/
def Frame.onto (f : Frame) (below : List Word) : Frame := { f with stack := f.stack ++ below.reverse }

lemma Frame.eq_of_fields {f g : Frame} (hstack : g.stack = f.stack) (hlocals : g.locals = f.locals)
    (hip : g.ip = f.ip) : g = f := by
  cases f
  cases g
  simp_all

/-- The positions of the instructions that a run of at most `budget` rounds fetches, in order. -/
def Program.fetched (p : Program) (budget capacity : Nat) : List Nat :=
  (p.trace budget capacity).map Entry.ip

namespace Correspondence

/-- The other machine has the values `below`, the bottom first, under its stack. -/
def onto (below : List Word) : Correspondence := { same with
  stackRel := fun s t => t = s ++ below.reverse
  push := fun v h => by rw [h, List.cons_append]
  pop := fun h => ⟨_,h,rfl⟩ }

/-- The other machine has `k` more locals, all of them zero. -/
def widened (k : Nat) : Correspondence := { same with
  tableRel := fun a b => b = a ++ Array.replicate k 0
  slot := by
    rintro a _ index _ n rfl rfl inside
    have hn := slot?_lt inside
    refine ⟨n,boundedIndex?_of_le inside (by simp),Array.getElem?_append_left hn,?_⟩
    intro v
    exact Array.setIfInBounds_append_left hn
  outside := fun _ named _ _ => named }

lemma eq_of_frames_same {f g : Frame} (h : same.Frames f g) : g = f :=
  Frame.eq_of_fields h.stack h.locals h.ip

lemma frames_onto_iff {below : List Word} {f g : Frame} : (onto below).Frames f g ↔ g = f.onto below := by
  constructor
  · intro h
    exact Frame.eq_of_fields h.stack h.locals h.ip
  · rintro rfl
    exact ⟨rfl,rfl,rfl⟩

/-- The locals that were added show in the entries, and nothing else does. -/
lemma capture_widened {k step : Nat} {f g : Frame} {i : Instruction} (h : (widened k).Frames f g) :
    Entry.capture step g i = { Entry.capture step f i with
      locals := (Entry.capture step f i).locals ++ List.replicate k 0 } := by
  have hstack : g.stack = f.stack := h.stack
  have hlocals : g.locals = f.locals ++ Array.replicate k 0 := h.locals
  simp [Entry.capture, h.ip, hstack, hlocals]

variable [Sink σ] {C : Correspondence}

/-- A program follows another if it has the same instruction wherever the other one's run comes, and if the
bound that this run fails by is the same for both machines. -/
lemma along_of_fetch {r : Run σ} (refl : ∀ index, C.indexRel index index) (longer : p.size ≤ q.size)
    (fetch : ∀ n, (Run.rounds p n r).status = .running →
      q.get? (Run.rounds p n r).frame.ip = p.get? (Run.rounds p n r).frame.ip)
    (bound : ∀ n e, (Run.rounds p n r).status = .failed e →
      ∀ f g, C.Frames f g → e.SameBound p.size q.size f g) : C.Along p q r where
  size_le := longer
  fetch n i hr hi := ⟨i,(fetch n hr).trans hi,.refl refl i⟩
  finish n hr hi := (fetch n hr).trans hi
  bound := bound

end Correspondence

namespace Program

variable [Sink σ] [Sink τ] {sink : σ}

lemma outcome_eq_error {m : Nat} {e : Fault}
    (ends : (p.runTraced n capacity sink).status.outcome? = some outcome)
    (failed : (p.runTraced m capacity sink).status = .failed e) : outcome = .error e := by
  have he : (p.runTraced m capacity sink).status.outcome? = some (.error e) := by rw [failed]; rfl
  exact outcome_unique ends he

/-! ### Values below the stack -/

/-- A run that does not run out of operands never looks at what is below its stack. -/
lemma along_onto (below : List Word) (ends : (p.runTraced n capacity sink).status.outcome? = some outcome)
    (supplied : ∀ required available ip, outcome ≠ .error (.stackUnderflow required available ip)) :
    (Correspondence.onto below).Along p p (Run.start capacity sink) := by
  apply Correspondence.along_of_fetch (fun _ => rfl) (Nat.le_refl _) (fun _ _ => rfl)
  intro m e failed f g h
  rw [outcome_eq_error ends failed] at supplied
  apply Fault.sameBound_of
  · left
    simpa using supplied
  · right
    exact congrArg Array.size h.locals
  · right
    rfl

/-- A run from a fresh frame that ends, and not by want of operands, goes the same way on top of any other
values: round by round it has the same instruction pointer, the same locals and the same stack on top of
these, and it ends with the same outcome after as many steps. -/
theorem runFrom_onto (p : Program) (capacity : Nat) (below : List Word) (sink : σ) (sink' : τ)
    (ends : (p.runTraced n capacity sink).status.outcome? = some outcome)
    (supplied : ∀ required available ip, outcome ≠ .error (.stackUnderflow required available ip)) :
    (p.runFrom n ((Frame.new capacity).onto below) sink').status.outcome? = some outcome ∧
    ∀ m, (p.runFrom m ((Frame.new capacity).onto below) sink').status = (p.runTraced m capacity sink).status ∧
      (p.runFrom m ((Frame.new capacity).onto below) sink').steps = (p.runTraced m capacity sink).steps ∧
      (p.runFrom m ((Frame.new capacity).onto below) sink').frame =
        (p.runTraced m capacity sink).frame.onto below := by
  have hruns : ∀ m, (Correspondence.onto below).Runs (p.runTraced m capacity sink)
      (p.runFrom m ((Frame.new capacity).onto below) sink') := by
    intro m
    apply (along_onto below ends supplied).runs_start
    exact Correspondence.frames_onto_iff.mpr rfl
  refine ⟨by rw [(hruns n).status, ends],?_⟩
  intro m
  exact ⟨(hruns m).status,(hruns m).steps,Correspondence.frames_onto_iff.mp (hruns m).frame⟩

def fiveByZero : Program := ofList [.pushConstant 0, .pushConstant 5, .divide]

/-- A division that fails has taken its operands, and the values below are still there. -/
theorem runFrom_onto_division :
    (fiveByZero.runTraced 3 1 Silence.mk).status.outcome? = some (.error (.divisionByZero 2)) ∧
    (fiveByZero.runFrom 3 ((Frame.new 1).onto [7,8]) Silence.mk).status.outcome? =
      some (.error (.divisionByZero 2)) ∧
    (fiveByZero.runFrom 3 ((Frame.new 1).onto [7,8]) Silence.mk).frame.stack = [8,7] := by
  have ends : (fiveByZero.runTraced 3 1 Silence.mk).status.outcome? = some (.error (.divisionByZero 2)) := rfl
  obtain ⟨houtcome,hruns⟩ := runFrom_onto _ 1 [7,8] Silence.mk Silence.mk ends (by simp)
  refine ⟨ends,houtcome,?_⟩
  rw [(hruns 3).2.2]
  rfl

/-! ### More locals -/

/-- A run that does not ask for a local that is not there never comes near the locals beyond. -/
lemma along_widened (k : Nat) (ends : (p.runTraced n capacity sink).status.outcome? = some outcome)
    (inside : ∀ index limit ip, outcome ≠ .error (.indexOutOfRange .localSlot index limit ip)) :
    (Correspondence.widened k).Along p p (Run.start capacity sink) := by
  apply Correspondence.along_of_fetch (fun _ => rfl) (Nat.le_refl _) (fun _ _ => rfl)
  intro m e failed f g h
  rw [outcome_eq_error ends failed] at inside
  apply Fault.sameBound_of
  · right
    exact congrArg List.length h.stack
  · left
    simpa using inside
  · right
    rfl

lemma frames_widened_new {capacity' : Nat} (hle : capacity ≤ capacity') :
    (Correspondence.widened (capacity' - capacity)).Frames (Frame.new capacity) (Frame.new capacity') := by
  refine ⟨rfl,?_,rfl⟩
  change Array.replicate capacity' 0 = Array.replicate capacity 0 ++ Array.replicate (capacity' - capacity) 0
  rw [Array.replicate_append_replicate, Nat.add_sub_cancel' hle]

/-- A run that ends, and not by an index outside its local table, ends with the same outcome after as many
steps when the table is larger, and leaves the same trace but for the zeros in the slots that were added. -/
theorem trace_widened (p : Program) {capacity' : Nat} (hle : capacity ≤ capacity') (sink : σ) (sink' : τ)
    (ends : (p.runTraced n capacity sink).status.outcome? = some outcome)
    (inside : ∀ index limit ip, outcome ≠ .error (.indexOutOfRange .localSlot index limit ip)) :
    (p.runTraced n capacity' sink').status.outcome? = some outcome ∧
    (p.runTraced n capacity' sink').steps = (p.runTraced n capacity sink).steps ∧
    p.trace n capacity' = (p.trace n capacity).map fun e =>
      { e with locals := e.locals ++ List.replicate (capacity' - capacity) 0 } := by
  have hruns : ∀ m, (Correspondence.widened (capacity' - capacity)).Runs
      (p.runTraced m capacity sink) (p.runTraced m capacity' sink') := by
    intro m
    exact (along_widened _ ends inside).runs_start (frames_widened_new hle) sink' m
  refine ⟨by rw [(hruns n).status, ends],(hruns n).steps,?_⟩
  apply Correspondence.trace_eq_map hruns
  · intro m _
    rfl
  · intro step f g i h
    exact Correspondence.capture_widened h

def fiveStored : Program := ofList [.pushConstant 5, .storeLocal 0, .loadLocal 0, .return]

/-- A table of three slots where one is enough. -/
theorem trace_widened_store :
    (fiveStored.runTraced 4 1 Silence.mk).status.outcome? = some (.ok (some 5)) ∧
    (fiveStored.runTraced 4 3 Silence.mk).status.outcome? = some (.ok (some 5)) ∧
    (fiveStored.trace 4 3).map Entry.locals = [[0,0,0], [0,0,0], [5,0,0], [5,0,0]] := by
  have ends : (fiveStored.runTraced 4 1 Silence.mk).status.outcome? = some (.ok (some 5)) := rfl
  obtain ⟨houtcome,_,htrace⟩ := trace_widened _ (Nat.le_add_right 1 2) Silence.mk Silence.mk ends (by simp)
  refine ⟨ends,houtcome,?_⟩
  rw [htrace]
  rfl

/-! ### Code that is never fetched -/

lemma trace_isPrefix_of_le {m : Nat} (hle : m ≤ n) : p.trace m capacity <+: p.trace n capacity := by
  induction hle with
  | refl => exact List.prefix_refl _
  | @step n _ ih =>
    obtain ⟨hr,_⟩ | ⟨hr,⟨hi,_⟩ | ⟨i,hi,_⟩⟩ := p.runTraced_succ_cases n capacity Silence.mk
    · rwa [trace_succ_of_no_fetch (.inl hr)]
    · rwa [trace_succ_of_no_fetch (.inr hi)]
    · rw [trace_succ hr hi]
      exact ih.trans (List.prefix_append _ _)

/-- Once a run is over, all that it fetched is on record. -/
lemma mem_fetched {m : Nat} {i : Instruction} (hover : (p.runTraced n capacity sink).status ≠ .running)
    (hr : (p.runTraced m capacity sink).status = .running)
    (hi : p.get? (p.runTraced m capacity sink).frame.ip = some i) :
    (p.runTraced m capacity sink).frame.ip ∈ p.fetched n capacity := by
  have hlt : m < n := by
    obtain hlt | hle := Nat.lt_or_ge m n
    · exact hlt
    · rw [← runTraced_of_le hover hle] at hover
      exact absurd hr hover
  have hmem : Entry.capture (p.runTraced m capacity sink).steps (p.runTraced m capacity sink).frame i ∈
      p.trace (m + 1) capacity := by
    rw [trace_succ hr hi]
    exact List.mem_append_right _ (List.mem_singleton_self _)
  exact List.mem_map_of_mem ((trace_isPrefix_of_le hlt).subset hmem)

/-- A run that does not run off the end of its program fetches an instruction in every round. -/
lemma exists_fetch {m : Nat} (ends : (p.runTraced n capacity sink).status.outcome? = some outcome)
    (stays : outcome ≠ .ok none) (hr : (p.runTraced m capacity sink).status = .running) :
    ∃ i, p.get? (p.runTraced m capacity sink).frame.ip = some i := by
  cases hi : p.get? (p.runTraced m capacity sink).frame.ip with
  | some i => exact ⟨i,rfl⟩
  | none =>
    have hended : (p.runTraced (m + 1) capacity sink).status.outcome? = some (.ok none) := by
      rw [runTraced_succ hr, Run.round_of_end hi]
      rfl
    exact absurd (outcome_unique ends hended) stays

/-- A run that does not jump out of its program goes the same way in a longer one, as long as both have
the same instructions where it comes. -/
lemma along_same (longer : p.size ≤ q.size)
    (ends : (p.runTraced n capacity sink).status.outcome? = some outcome)
    (inside : ∀ index limit ip, outcome ≠ .error (.indexOutOfRange .jumpTarget index limit ip))
    (fetch : ∀ m, (p.runTraced m capacity sink).status = .running →
      q.get? (p.runTraced m capacity sink).frame.ip = p.get? (p.runTraced m capacity sink).frame.ip) :
    Correspondence.same.Along p q (Run.start capacity sink) := by
  apply Correspondence.along_of_fetch (fun _ => rfl) longer fetch
  intro m e failed f g h
  rw [outcome_eq_error ends failed] at inside
  apply Fault.sameBound_of
  · right
    exact congrArg List.length h.stack
  · right
    exact congrArg Array.size h.locals
  · left
    simpa using inside

/-- A run that ends with a value or a fault, but not with a jump out of its program, is the same in every
program that is at least as long and has the same instructions wherever the run fetches one. -/
theorem trace_of_fetched (sink : σ) (sink' : τ) (longer : p.size ≤ q.size)
    (ends : (p.runTraced n capacity sink).status.outcome? = some outcome) (stays : outcome ≠ .ok none)
    (inside : ∀ index limit ip, outcome ≠ .error (.indexOutOfRange .jumpTarget index limit ip))
    (agree : ∀ ip ∈ p.fetched n capacity, q.get? ip = p.get? ip) :
    (q.runTraced n capacity sink').status.outcome? = some outcome ∧
    q.trace n capacity = p.trace n capacity := by
  have hover := Status.ne_running_of_outcome? ends
  have hfetch : ∀ m, (p.runTraced m capacity sink).status = .running →
      q.get? (p.runTraced m capacity sink).frame.ip = p.get? (p.runTraced m capacity sink).frame.ip := by
    intro m hr
    obtain ⟨i,hi⟩ := exists_fetch ends stays hr
    exact agree _ (mem_fetched hover hr hi)
  have hruns : ∀ m, Correspondence.same.Runs (p.runTraced m capacity sink) (q.runTraced m capacity sink') :=
    (along_same longer ends inside hfetch).runs_start ⟨rfl,rfl,rfl⟩ sink'
  refine ⟨by rw [(hruns n).status, ends],?_⟩
  have htrace : q.trace n capacity = (p.trace n capacity).map id := by
    apply Correspondence.trace_eq_map hruns hfetch
    intro step f g i h
    rw [Correspondence.eq_of_frames_same h]
    rfl
  rwa [List.map_id] at htrace

/-- A jump over an addition. -/
def skipping : Program := ofList [.jump 2, .add, .pushConstant 7, .return]

/-- The same jump over a division, with another jump behind the return. -/
def skippingMore : Program := ofList [.jump 2, .divide, .pushConstant 7, .return, .jump 9]

/-- The instruction that is jumped over can be any other, and code behind the return too. -/
theorem trace_of_fetched_skipped :
    (skipping.runTraced 3 1 Silence.mk).status.outcome? = some (.ok (some 7)) ∧
    skipping.fetched 3 1 = [0,2,3] ∧
    (skippingMore.runTraced 3 1 Silence.mk).status.outcome? = some (.ok (some 7)) ∧
    skippingMore.trace 3 1 = skipping.trace 3 1 := by
  have ends : (skipping.runTraced 3 1 Silence.mk).status.outcome? = some (.ok (some 7)) := rfl
  have hfetched : skipping.fetched 3 1 = [0,2,3] := rfl
  have longer : skipping.size ≤ skippingMore.size := by decide
  refine ⟨ends,hfetched,?_⟩
  apply trace_of_fetched Silence.mk Silence.mk longer ends (by simp) (by simp)
  rw [hfetched]
  simp [skipping, skippingMore, get?, ofList]

end Program
end StackMachine
