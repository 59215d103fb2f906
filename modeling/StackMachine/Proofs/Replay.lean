import Mathlib.Data.List.Chain
import StackMachine.Proofs.Bounds
import StackMachine.Proofs.Observation
import StackMachine.Trace.RingBuffer

/-! The trace of a run is a replay of it: every entry shows the machine just before an instruction runs,
each frame leads to the next by one step, and the step from the last frame decides how the run ends. -/
namespace StackMachine

/-- One step leads from the frame `f` of a fetch to the frame of the next. -/
inductive Leads (p : Program) (f : Frame) : Frame → Prop
  | next {i : Instruction} {g : Frame} (fetch : p.get? f.ip = some i)
      (steps : step p.size i f = (g, .ok .next)) : Leads p f (g.setIp (f.ip + 1))
  | jump {i : Instruction} {g : Frame} {ip : Nat} (fetch : p.get? f.ip = some i)
      (steps : step p.size i f = (g, .ok (.jump ip))) : Leads p f (g.setIp ip)

/-- The step from the frame `f` of the last fetch gives the outcome of the run. -/
inductive Concludes (p : Program) (f : Frame) : Except Fault (Option Word) → Prop
  | return {i : Instruction} {g : Frame} {v : Word} (fetch : p.get? f.ip = some i)
      (steps : step p.size i f = (g, .ok (.return v))) : Concludes p f (.ok (some v))
  | fault {i : Instruction} {g : Frame} {e : Fault} (fetch : p.get? f.ip = some i)
      (steps : step p.size i f = (g, .error e)) : Concludes p f (.error e)
  | next {i : Instruction} {g : Frame} (fetch : p.get? f.ip = some i)
      (steps : step p.size i f = (g, .ok .next)) (behind : f.ip + 1 = p.size) : Concludes p f (.ok none)
  | jump {i : Instruction} {g : Frame} {ip : Nat} (fetch : p.get? f.ip = some i)
      (steps : step p.size i f = (g, .ok (.jump ip))) (behind : ip = p.size) : Concludes p f (.ok none)

/-- The entries follow the program from a fresh frame on. -/
structure Follows (p : Program) (capacity : Nat) (es : List Entry) : Prop where
  numbered : es.map Entry.step = List.range es.length
  described : ∀ e ∈ es, ∃ i, p.get? e.ip = some i ∧ e.opcode = i.opcode ∧ e.instruction = i.text
  first : ∀ e ∈ es.head?, e.ip = 0 ∧ e.stack = [] ∧ e.locals = List.replicate capacity 0
  linked : es.IsChain fun e e' => Leads p e.frame e'.frame

/-- The entries follow the program from a fresh frame to the end of its run. -/
structure Replays (p : Program) (capacity : Nat) (es : List Entry)
    (outcome : Except Fault (Option Word)) : Prop extends Follows p capacity es where
  last : ∀ e ∈ es.getLast?, Concludes p e.frame outcome
  eq_nil_iff : es = [] ↔ p.isEmpty = true
  outcome_of_nil : es = [] → outcome = .ok none

variable {σ : Type} {p : Program} {capacity : Nat}

lemma Program.isEmpty_iff : p.isEmpty = true ↔ p.size = 0 := Array.isEmpty_iff_size_eq_zero

lemma Frame.leads_after {f : Frame} {i : Instruction} (fetch : p.get? f.ip = some i)
    (h : Status.after (step p.size i f).2 = .running) : Leads p f (Frame.after (step p.size i f)) := by
  have hip := ip_step p.size i f
  rcases hs : step p.size i f with ⟨g,_ | _ | ip | _⟩ <;> simp only [hs] at h hip
  · cases h
  · change Leads p f (g.setIp (g.ip + 1))
    rw [hip]
    exact .next fetch hs
  · exact .jump fetch hs
  · cases h

/-- An entry is added by an instruction that is fetched where the last entry leads. -/
lemma Follows.concat {es : List Entry} {f : Frame} {i : Instruction} (h : Follows p capacity es)
    (fetch : p.get? f.ip = some i) (fresh : es = [] → f = Frame.new capacity)
    (leads : ∀ e ∈ es.getLast?, Leads p e.frame f) :
    Follows p capacity (es ++ [Entry.capture es.length f i]) where
  numbered := by
    simp only [List.map_append, h.numbered, List.length_append, List.length_singleton, List.range_succ]
    rfl
  described e he := by
    rw [List.mem_append, List.mem_singleton] at he
    obtain he | rfl := he
    · exact h.described e he
    · exact ⟨i,fetch,rfl,rfl⟩
  first e he := by
    cases es with
    | nil =>
      obtain rfl := Option.mem_some.mp he
      rw [fresh rfl]
      simp [Entry.capture, Frame.new]
    | cons e' es => exact h.first e he
  linked := by
    rw [List.isChain_append]
    refine ⟨h.linked,.singleton _,?_⟩
    intro e he e' he'
    obtain rfl := Option.mem_some.mp he'
    rw [Entry.frame_capture]
    exact leads e he

namespace Run

/-- The entries `es` account for where the run `r` is: it starts from a fresh frame, and from there on it
is where the step from the last entry took it. -/
structure Told (p : Program) (capacity : Nat) (es : List Entry) (r : Run σ) : Prop
    extends Follows p capacity es where
  steps : r.steps = es.length
  fresh : es = [] → r.frame = Frame.new capacity ∧ (r.status = .running ∨ r.status = .ended)
  last : ∀ e ∈ es.getLast?, ∃ i, p.get? e.ip = some i ∧ r.frame = Frame.after (step p.size i e.frame) ∧
    (r.status = Status.after (step p.size i e.frame).2 ∨
      r.status = .ended ∧ Status.after (step p.size i e.frame).2 = .running)

lemma told_start (p : Program) (capacity : Nat) (sink : σ) : (start capacity sink).Told p capacity [] where
  numbered := rfl
  described _ h := by cases h
  first _ h := by cases h
  linked := .nil
  steps := rfl
  fresh _ := ⟨rfl,.inl rfl⟩
  last _ h := by cases h

lemma Told.last_of_running {r : Run σ} {es : List Entry} (h : r.Told p capacity es)
    (hr : r.status = .running) {e : Entry} (he : e ∈ es.getLast?) :
    ∃ i, p.get? e.ip = some i ∧ r.frame = Frame.after (step p.size i e.frame) ∧
      Status.after (step p.size i e.frame).2 = .running := by
  obtain ⟨i,hi,hf,hs | ⟨hs,_⟩⟩ := h.last e he
  · exact ⟨i,hi,hf,hs.symm.trans hr⟩
  · rw [hr] at hs
    cases hs

lemma Told.runOff {r : Run σ} {es : List Entry} (h : r.Told p capacity es) (hr : r.status = .running) :
    { r with status := .ended }.Told p capacity es := by
  refine ⟨h.toFollows,h.steps,fun he => ⟨(h.fresh he).1,.inr rfl⟩,?_⟩
  intro e he
  obtain ⟨i,hi,hf,hs⟩ := h.last_of_running hr he
  exact ⟨i,hi,hf,.inr ⟨rfl,hs⟩⟩

/-- While the run is under way, the last entry leads to the frame that it is in. -/
lemma Told.leads {r : Run σ} {es : List Entry} (h : r.Told p capacity es) (hr : r.status = .running)
    {e : Entry} (he : e ∈ es.getLast?) : Leads p e.frame r.frame := by
  obtain ⟨i,hi,hf,hs⟩ := h.last_of_running hr he
  rw [hf]
  exact Frame.leads_after hi hs

lemma Told.exec [Sink σ] {r : Run σ} {es : List Entry} {i : Instruction} (h : r.Told p capacity es)
    (hr : r.status = .running) (hi : p.get? r.frame.ip = some i) :
    (r.exec p i).Told p capacity (es ++ [Entry.capture r.steps r.frame i]) := by
  rw [exec_eq, h.steps]
  refine ⟨h.concat hi (fun he => (h.fresh he).1) (fun e he => h.leads hr he),?_,?_,?_⟩
  · simp
  · intro he
    simp at he
  · intro e he
    rw [List.getLast?_concat] at he
    obtain rfl := Option.mem_some.mp he
    rw [Entry.frame_capture]
    exact ⟨i,hi,rfl,.inl rfl⟩

/-- Once the run is over, the step from the last entry gives its outcome. -/
lemma Told.concludes {r : Run σ} {es : List Entry} {outcome : Except Fault (Option Word)}
    (h : r.Told p capacity es) (hs : r.Sound p capacity) (ho : r.status.outcome? = some outcome)
    {e : Entry} (he : e ∈ es.getLast?) : Concludes p e.frame outcome := by
  obtain ⟨i,hi,hf,hr⟩ := h.last e he
  have hip := ip_step p.size i e.frame
  have hend : r.status = .ended → outcome = .ok none ∧ r.frame.ip = p.size := by
    intro hr
    rw [hr] at ho
    exact ⟨(Option.some.inj ho).symm,hs.ended hr⟩
  -- A fault or a return is the outcome itself; after the other two the run is only over if it ran off.
  rcases hg : step p.size i e.frame with ⟨g,err | _ | ip | v⟩ <;>
    simp only [hg, Frame.after, Status.after] at hf hip hr
  · obtain hr | ⟨_,hn⟩ := hr
    · rw [hr] at ho
      exact Option.some.inj ho ▸ .fault hi hg
    · cases hn
  · obtain hr | ⟨hr,_⟩ := hr
    · rw [hr] at ho
      cases ho
    · obtain ⟨rfl,hsize⟩ := hend hr
      rw [hf] at hsize
      exact .next hi hg (hip ▸ hsize)
  · obtain hr | ⟨hr,_⟩ := hr
    · rw [hr] at ho
      cases ho
    · obtain ⟨rfl,hsize⟩ := hend hr
      rw [hf] at hsize
      exact .jump hi hg hsize
  · obtain hr | ⟨_,hn⟩ := hr
    · rw [hr] at ho
      exact Option.some.inj ho ▸ .return hi hg
    · cases hn

/-- A run that is over without having run an instruction is the run of the empty program. -/
lemma Told.of_nil {r : Run σ} {outcome : Except Fault (Option Word)} (h : r.Told p capacity [])
    (hs : r.Sound p capacity) (ho : r.status.outcome? = some outcome) :
    p.size = 0 ∧ outcome = .ok none := by
  obtain ⟨hf,hr | hr⟩ := h.fresh rfl
  · rw [hr] at ho
    cases ho
  · have hip := hs.ended hr
    rw [hf] at hip
    rw [hr] at ho
    exact ⟨hip.symm,(Option.some.inj ho).symm⟩

theorem Told.replays {r : Run σ} {es : List Entry} {outcome : Except Fault (Option Word)}
    (h : r.Told p capacity es) (hs : r.Sound p capacity) (ho : r.status.outcome? = some outcome) :
    Replays p capacity es outcome := by
  refine ⟨h.toFollows,fun e he => h.concludes hs ho he,?_,?_⟩
  · constructor
    · rintro rfl
      exact Program.isEmpty_iff.mpr (h.of_nil hs ho).1
    · intro hp
      -- An entry would name an instruction of the empty program.
      rw [List.eq_nil_iff_forall_not_mem]
      intro e he
      obtain ⟨i,hi,_⟩ := h.described e he
      have hlt := Program.exists_get?_iff.mp ⟨i,hi⟩
      rw [Program.isEmpty_iff.mp hp] at hlt
      exact Nat.not_lt_zero _ hlt
  · rintro rfl
    exact (h.of_nil hs ho).2

end Run

namespace Program

variable [Sink σ] {sink : σ} {outcome : Except Fault (Option Word)}

theorem told_runTraced (p : Program) (n capacity : Nat) (sink : σ) :
    (p.runTraced n capacity sink).Told p capacity (p.trace n capacity) := by
  induction n with
  | zero => exact Run.told_start p capacity sink
  | succ n ih =>
    obtain ⟨hr,he⟩ | ⟨hr,⟨hi,he⟩ | ⟨i,hi,he⟩⟩ := runTraced_succ_cases p n capacity sink
    · rwa [he, trace_succ_of_no_fetch (.inl hr)]
    · rw [he, trace_succ_of_no_fetch (.inr hi)]
      exact ih.runOff hr
    · rw [he, trace_succ hr hi]
      exact ih.exec hr hi

/-- A sink that is enabled at every fetch receives one entry for each instruction of a run that ends, and
these entries replay the run to its outcome. -/
theorem trace_replays (p : Program) (n capacity : Nat) (sink : σ)
    (awake : ∀ m, (p.runTraced m capacity sink).status = .running →
      Sink.enabled (p.runTraced m capacity sink).sink = true)
    (ends : (p.runTraced n capacity sink).status.outcome? = some outcome) :
    (p.runTraced n capacity sink).sink = (p.trace n capacity).foldl Sink.record sink ∧
    (p.trace n capacity).length = (p.runTraced n capacity sink).steps ∧
    Replays p capacity (p.trace n capacity) outcome := by
  have ht := told_runTraced p n capacity sink
  have hs := sound_runTraced p n capacity sink
  exact ⟨sink_runTraced_of_enabled awake n,ht.steps.symm,ht.replays hs ends⟩

/-- A jump over the return, and one back to it. -/
def thereAndBack : Program := ofList [.jump 2, .return, .pushConstant 7, .jump 1]

/-- The run is watched by a ring too small for all its entries. -/
theorem trace_replays_ring :
    (thereAndBack.runTraced 4 1 (RingBuffer.new 2)).status.outcome? = some (.ok (some 7)) ∧
    (thereAndBack.trace 4 1).length = 4 ∧
    Replays thereAndBack 1 (thereAndBack.trace 4 1) (.ok (some 7)) := by
  have ends : (thereAndBack.runTraced 4 1 (RingBuffer.new 2)).status.outcome? = some (.ok (some 7)) := rfl
  obtain ⟨_,hlength,hreplays⟩ := trace_replays _ 4 1 (RingBuffer.new 2) (fun _ _ => rfl) ends
  exact ⟨ends,hlength,hreplays⟩

end Program
end StackMachine
