import Mathlib.Data.List.DropRight
import StackMachine.Proofs.Columns
import StackMachine.Proofs.Failure
import StackMachine.Proofs.Json.TraceLines
import StackMachine.Proofs.Replay

/-! The ring keeps the newest entries, whatever arrives and however often the head goes round. After any run
it holds the tail of the trace, so that its dump is the heading followed by the last lines of the whole
trace, and on a run that fails the last of these is the line of the instruction at fault. -/
namespace StackMachine

namespace RingBuffer

/-- The ring has `capacity` slots and was given `es`: it holds the newest of them. Slots fill up first,
with the head in place; once all are in use the head is where the oldest entry stands. -/
structure Keeps (capacity : Nat) (es : List Entry) (r : RingBuffer) : Prop where
  capacity_eq : r.capacity = capacity
  size_le : r.slots.size ≤ capacity
  full_iff : r.full = true ↔ r.slots.size = capacity
  head_lt : r.head < capacity
  head_eq : r.full = false → r.head = 0
  toList_eq : r.toList = es.rtake capacity

variable {capacity : Nat} {es : List Entry} {r : RingBuffer}

lemma length_toList (r : RingBuffer) : r.toList.length = r.size := by
  simp only [toList, List.length_append, List.length_drop, List.length_take, Array.length_toList, size]
  omega

lemma keeps_new (size : Nat) : (new size).Keeps (max size 1) [] where
  capacity_eq := rfl
  size_le := Nat.zero_le _
  full_iff := by simp [new]; omega
  head_lt := Nat.lt_of_lt_of_le Nat.zero_lt_one (Nat.le_max_right size 1)
  head_eq _ := rfl
  toList_eq := by simp [new, toList]

lemma Keeps.size_eq (h : r.Keeps capacity es) : r.size = min es.length capacity := by
  rw [← length_toList, h.toList_eq, List.rtake, List.length_drop]
  omega

/-- Until it is full a ring has a slot left. -/
lemma Keeps.size_lt (h : r.Keeps capacity es) (hf : r.full = false) : r.slots.size < capacity := by
  have hne : r.slots.size ≠ capacity := fun hs => by simp [h.full_iff.mpr hs] at hf
  exact Nat.lt_of_le_of_ne h.size_le hne

lemma getLast?_rtake {n : Nat} (h : 0 < n) : (es.rtake n).getLast? = es.getLast? := by
  rcases List.eq_nil_or_concat' es with rfl | ⟨es,e,rfl⟩
  · rw [List.rtake_nil]
  · obtain ⟨m,rfl⟩ := Nat.exists_eq_add_of_lt h
    rw [Nat.zero_add, List.rtake_concat_succ, List.getLast?_concat, List.getLast?_concat]

lemma Keeps.toList_eq_min (h : r.Keeps capacity es) : r.toList = es.rtake (min es.length capacity) := by
  rw [h.toList_eq, List.rtake, List.rtake]
  congr 1
  omega

/-- A ring has one slot at least, so it holds the last entry. -/
lemma Keeps.getLast?_eq (h : r.Keeps capacity es) : r.toList.getLast? = es.getLast? := by
  rw [h.toList_eq, getLast?_rtake (Nat.zero_lt_of_lt h.head_lt)]

/-! ### One more entry -/

lemma toList_push_of_not_full (hf : r.full = false) (hh : r.head = 0) (e : Entry) :
    (r.push e).toList = r.toList ++ [e] := by
  simp [push, hf, toList, hh]

/-- Writing over the slot at the head and moving the head on drops the oldest entry. -/
lemma toList_push_of_full (hf : r.full = true) (hs : r.slots.size = r.capacity) (hh : r.head < r.capacity)
    (e : Entry) : (r.push e).toList = r.toList.tail ++ [e] := by
  have hlt : r.head < r.slots.toList.length := by rwa [Array.length_toList, hs]
  have hset : (r.slots.setIfInBounds r.head e).toList =
      r.slots.toList.take r.head ++ e :: r.slots.toList.drop (r.head + 1) := by
    rw [Array.toList_setIfInBounds, List.set_eq_take_append_cons_drop, if_pos hlt]
  have htail : r.toList.tail = r.slots.toList.drop (r.head + 1) ++ r.slots.toList.take r.head := by
    rw [toList, List.drop_eq_getElem_cons hlt, List.cons_append, List.tail_cons]
  have hlength : (r.slots.toList.take r.head).length = r.head := List.length_take_of_le (Nat.le_of_lt hlt)
  rw [htail]
  simp only [push, hf, if_true, toList, hset]
  by_cases hwrap : r.head + 1 < r.capacity
  · have hdrop : (r.slots.toList.take r.head).drop (r.head + 1) = [] := List.drop_eq_nil_of_le (by omega)
    have htake : (r.slots.toList.take r.head).take (r.head + 1) = r.slots.toList.take r.head :=
      List.take_of_length_le (by omega)
    rw [Nat.mod_eq_of_lt hwrap]
    simp [List.drop_append, List.take_append, hlength, hdrop, htake]
  -- Behind the last slot the head starts over, and the slots are in order again.
  · have hend : r.head + 1 = r.capacity := by omega
    have hnil : r.slots.toList.drop (r.head + 1) = [] :=
      List.drop_eq_nil_of_le (by rw [Array.length_toList]; omega)
    rw [hend, Nat.mod_self, ← hend, hnil]
    simp

lemma rtake_concat_of_lt {n : Nat} (h : es.length < n) (e : Entry) :
    (es ++ [e]).rtake n = es.rtake n ++ [e] := by
  rw [List.rtake, List.rtake, List.length_append, List.length_singleton, Nat.sub_eq_zero_of_le h,
    Nat.sub_eq_zero_of_le (Nat.le_of_lt h), List.drop_zero, List.drop_zero]

lemma rtake_concat_of_le {n : Nat} (hpos : 0 < n) (h : n ≤ es.length) (e : Entry) :
    (es ++ [e]).rtake n = (es.rtake n).tail ++ [e] := by
  obtain ⟨m,rfl⟩ := Nat.exists_eq_add_of_lt hpos
  rw [Nat.zero_add] at h ⊢
  rw [List.rtake_concat_succ, List.rtake, List.rtake, List.tail_drop]
  congr 2
  omega

theorem Keeps.push (h : r.Keeps capacity es) (e : Entry) : (r.push e).Keeps capacity (es ++ [e]) := by
  have hsize := h.size_eq
  have hle := h.size_le
  have hcapacity := h.capacity_eq
  have hpos : 0 < capacity := Nat.zero_lt_of_lt h.head_lt
  rw [size] at hsize
  cases hf : r.full with
  | false =>
    have hlt := h.size_lt hf
    have hlist : (r.push e).toList = (es ++ [e]).rtake capacity := by
      rw [toList_push_of_not_full hf (h.head_eq hf), h.toList_eq, rtake_concat_of_lt (by omega)]
    refine ⟨?_,?_,?_,?_,?_,hlist⟩ <;> simp only [RingBuffer.push, hf, Bool.false_eq_true, if_false]
    · exact hcapacity
    · rw [Array.size_push]
      omega
    · rw [Array.size_push, beq_iff_eq, hcapacity]
    · exact h.head_lt
    · intro _
      exact h.head_eq hf
  | true =>
    have hs : r.slots.size = capacity := h.full_iff.mp hf
    have hlist : (r.push e).toList = (es ++ [e]).rtake capacity := by
      rw [toList_push_of_full hf (hs.trans hcapacity.symm) (hcapacity ▸ h.head_lt), h.toList_eq,
        rtake_concat_of_le hpos (by omega)]
    refine ⟨?_,?_,?_,?_,?_,hlist⟩ <;> simp only [RingBuffer.push, hf, if_true]
    · exact hcapacity
    · rwa [Array.size_setIfInBounds]
    · rw [Array.size_setIfInBounds]
      exact iff_of_true trivial hs
    · rw [hcapacity]
      exact Nat.mod_lt _ hpos
    · intro hfalse
      cases hfalse

/-! ### Entries from both sides -/

/-- An entry gets into a ring by being pushed, or as what the ring is shown of a run. -/
inductive Arrival
  | pushed (e : Entry)
  | recorded (e : Entry)
  deriving DecidableEq, Repr

def Arrival.entry : Arrival → Entry
  | .pushed e | .recorded e => e

def arrive (r : RingBuffer) : Arrival → RingBuffer
  | .pushed e => r.push e
  | .recorded e => Sink.record r e

lemma Keeps.arrive (h : r.Keeps capacity es) (a : Arrival) :
    (r.arrive a).Keeps capacity (es ++ [a.entry]) := by
  cases a with
  | pushed e => exact h.push e
  | recorded e => exact h.push e

lemma keeps_arrivals (size : Nat) (arrivals : List Arrival) :
    (arrivals.foldl arrive (new size)).Keeps (max size 1) (arrivals.map Arrival.entry) := by
  have hnew : (new size).Keeps (max size 1) (List.map Arrival.entry []) := keeps_new size
  refine foldl_invariant (P := fun seen r => Keeps (max size 1) (seen.map Arrival.entry) r) ?_ hnew arrivals
  intro seen r a h
  rw [List.map_append, List.map_singleton]
  exact h.arrive a

/-- Where the head of a ring of `capacity` slots may stand. It is at the first slot until all slots are in
use; a push onto a full ring then writes to a slot that is there, and listing the entries cuts the slots
inside. -/
structure InBounds (capacity : Nat) (r : RingBuffer) : Prop where
  head_lt : r.head < capacity
  head_eq : r.full = false → r.head = 0
  full_iff : r.full = true ↔ r.slots.size = capacity
  room : r.full = false → r.slots.size < capacity
  overwrites : r.full = true →
    ∃ h : r.head < r.slots.size, ∀ e, (r.push e).slots = r.slots.set r.head e h
  cuts : ∃ newer older, newer.length = r.head ∧ r.slots.toList = newer ++ older ∧ r.toList = older ++ newer

lemma Keeps.inBounds (h : r.Keeps capacity es) : r.InBounds capacity where
  head_lt := h.head_lt
  head_eq := h.head_eq
  full_iff := h.full_iff
  room := h.size_lt
  overwrites hf := by
    have hlt : r.head < r.slots.size := h.full_iff.mp hf ▸ h.head_lt
    refine ⟨hlt,?_⟩
    intro e
    rw [RingBuffer.push, if_pos hf]
    exact dif_pos hlt
  cuts := by
    have hle : r.head ≤ r.slots.toList.length := by
      rw [Array.length_toList]
      cases hf : r.full with
      | false =>
        rw [h.head_eq hf]
        exact Nat.zero_le _
      | true =>
        rw [h.full_iff.mp hf]
        exact Nat.le_of_lt h.head_lt
    exact ⟨_,_,List.length_take_of_le hle,(List.take_append_drop r.head r.slots.toList).symm,rfl⟩

lemma Keeps.isEmpty_iff (h : r.Keeps capacity es) : r.isEmpty = true ↔ es = [] := by
  have hsize := h.size_eq
  have hpos : 0 < capacity := Nat.zero_lt_of_lt h.head_lt
  rw [size] at hsize
  rw [isEmpty, Array.isEmpty_iff_size_eq_zero, ← List.length_eq_zero_iff]
  omega

/-- Whatever arrives at a new ring and in whichever way, the ring holds the newest of it in order, as much
as it has slots for, and reaches outside its slots neither now nor with the next push. A ring that was to
have no slot has one. -/
theorem arrivals_newest (size : Nat) (arrivals : List Arrival) :
    let r := arrivals.foldl arrive (new size)
    let es := arrivals.map Arrival.entry
    r.capacity = max size 1 ∧
    r.toList = es.rtake (min es.length (max size 1)) ∧
    r.size = min es.length (max size 1) ∧
    (r.isEmpty = true ↔ es = []) ∧
    r.InBounds (max size 1) := by
  intro r es
  have h : r.Keeps (max size 1) es := keeps_arrivals size arrivals
  exact ⟨h.capacity_eq,h.toList_eq_min,h.size_eq,h.isEmpty_iff,h.inBounds⟩

/-! ### Dumping -/

open Output

variable {limit : Option Nat} {format : TraceFormat}

/-- Writing goes on up to the first entry that does not fit. -/
theorem writeAll_wrote {w : Writer} (h : w.Wrote limit format es) (fits : Fits limit (format.document es))
    (more : List Entry) :
    (writeAll w more).1.output.Took limit (format.document (es ++ more)) ∧
    ((writeAll w more).2 = .ok () ↔ Fits limit (format.document (es ++ more))) := by
  induction more generalizing es w with
  | nil =>
    rw [List.append_nil]
    exact ⟨h.took,h.finish_iff⟩
  | cons e more ih =>
    rw [List.append_cons]
    by_cases fits' : Fits limit (format.document (es ++ [e]))
    · obtain ⟨w',hwrite,hwrote⟩ := h.writeEntry_of_fits fits'
      simp only [writeAll, hwrite]
      exact ih hwrote fits'
    · obtain ⟨o,hwrite,htook⟩ := h.writeEntry_of_not_fits fits fits'
      simp only [writeAll, hwrite]
      rw [TraceFormat.document_append]
      exact ⟨htook.append_of_not_fits fits' _,iff_of_false (by simp) (fun hf => fits' hf.of_append)⟩

/-- A dump gives its output the document of the entries in the ring, and goes through exactly if all of
it fits. -/
theorem dump_took (r : RingBuffer) (limit : Option Nat) (format : TraceFormat) :
    (r.dump format { limit }).1.Took limit (format.document r.toList) ∧
    ((r.dump format { limit }).2 = .ok () ↔ Fits limit (format.document r.toList)) := by
  by_cases fits : Fits limit format.headerBytes
  · obtain ⟨w,hnew,hwrote⟩ := Writer.new_of_fits fits
    have hnil : Fits limit (format.document []) := by simpa [TraceFormat.document] using fits
    have hall := writeAll_wrote hwrote hnil r.toList
    rw [List.nil_append] at hall
    simpa only [dump, hnew] using hall
  · obtain ⟨o,hnew,htook⟩ := Writer.new_of_not_fits fits
    simp only [dump, hnew]
    exact ⟨htook.append_of_not_fits fits _,iff_of_false (by simp) (fun hf => fits hf.of_append)⟩

end RingBuffer

namespace Program

open Output

variable {p : Program}

theorem keeps_runTraced (p : Program) (budget capacity size : Nat) :
    (p.runTraced budget capacity (RingBuffer.new size)).sink.Keeps (max size 1) (p.trace budget capacity) := by
  rw [sink_runTraced_of_enabled (fun _ _ => rfl)]
  exact foldl_invariant (P := RingBuffer.Keeps (max size 1)) (fun _ _ e h => h.push e)
    (RingBuffer.keeps_new size) (p.trace budget capacity)

/-- The last entry of a run that fails is that of the instruction at fault. -/
theorem getLast?_trace_of_failed {σ : Type} [Sink σ] {n capacity : Nat} {sink : σ} {fault : Fault}
    (h : (p.runTraced n capacity sink).status = .failed fault) :
    ∃ e i, (p.trace n capacity).getLast? = some e ∧ e.ip = fault.position ∧
      p.get? fault.position = some i ∧ e.opcode = i.opcode ∧ e.instruction = i.text := by
  have ht := told_runTraced p n capacity sink
  have hs := sound_runTraced p n capacity sink
  have ho : (p.runTraced n capacity sink).status.outcome? = some (.error fault) := by
    rw [h, Status.outcome?]
  have hreplays := ht.replays hs ho
  cases he : (p.trace n capacity).getLast? with
  | none =>
    -- A run without an entry ends without a fault.
    have hnone := hreplays.outcome_of_nil (List.getLast?_eq_none_iff.mp he)
    cases hnone
  | some e =>
    cases hreplays.last e he with
    | fault fetch steps =>
      have hfails := step_error_iff.mp (congrArg Prod.snd steps)
      have hposition : fault.position = e.ip := hfails.position_eq
      obtain ⟨i,hi,hop,htext⟩ := hreplays.described e (List.mem_of_getLast? he)
      exact ⟨e,i,rfl,hposition.symm,hposition ▸ hi,hop,htext⟩

/-- Every entry of a run has a row in either format. -/
lemma exists_shows (p : Program) (n capacity : Nat) (format : TraceFormat) :
    ∀ e ∈ p.trace n capacity, ∃ row, format.Shows e row := by
  intro e he
  obtain ⟨i,_,hop,htext⟩ := (told_runTraced p n capacity Silence.mk).described e he
  cases format with
  | text =>
    have hsnapshot : (Snapshot.mk e.step e.frame i).entry = e := by
      simp [Snapshot.entry, Entry.capture, Entry.frame, ← hop, ← htext]
    exact ⟨_,hsnapshot ▸ (Snapshot.mk e.step e.frame i).shows_text⟩
  | json => exact ⟨_,Entry.shows_json htext⟩

/-- The rows of the newest entries are the last rows. -/
lemma forall₂_rtake {α β : Type} {R : α → β → Prop} {as : List α} {bs : List β} (h : List.Forall₂ R as bs)
    (n : Nat) : List.Forall₂ R (as.rtake n) (bs.rtake n) := by
  rw [List.rtake, List.rtake, h.length_eq]
  exact List.forall₂_drop _ h

/-- The dump of a ring that watched a run is the heading followed by the last rows of what a writer makes of the
same run, one line for each entry, as many as the ring has room for. An output with a limit gets the first
bytes of it. When the run fails, the dump ends with the line of the instruction at fault. -/
theorem dump_runTraced (p : Program) (budget capacity size : Nat) (format : TraceFormat) :
    let r := p.runTraced budget capacity (RingBuffer.new size)
    let newest := (p.trace budget capacity).rtake (min r.steps (max size 1))
    (p.trace budget capacity).length = r.steps ∧
    (∃ full, p.runWritten budget capacity format { limit := none } = .ok full ∧
      full.sink.output.toList = format.document (p.trace budget capacity)) ∧
    r.sink.size = min r.steps (max size 1) ∧
    (∃ o, r.sink.dump format { limit := none } = (o, .ok ()) ∧ o.toList = format.document newest) ∧
    (∀ n, (r.sink.dump format { limit := some n }).1.toList = (format.document newest).take n ∧
      ((r.sink.dump format { limit := some n }).2 = .ok () ↔ (format.document newest).length ≤ n)) ∧
    (∃ rows : List String, List.Forall₂ format.Shows (p.trace budget capacity) rows ∧
      format.document (p.trace budget capacity) = format.headerBytes ++ Text.framed (rows.map Text.bytes) ∧
      format.document newest = format.headerBytes ++
        Text.framed ((rows.rtake (min r.steps (max size 1))).map Text.bytes)) ∧
    ∀ fault, r.status = .failed fault →
      ∃ e i row, newest.getLast? = some e ∧ e.ip = fault.position ∧ p.get? fault.position = some i ∧
        e.opcode = i.opcode ∧ e.instruction = i.text ∧ format.Shows e row ∧ i.text.toList <:+: row.toList ∧
        Text.bytes row ++ [10] <:+ format.document newest := by
  intro r newest
  have hlength : (p.trace budget capacity).length = r.steps :=
    (told_runTraced p budget capacity (RingBuffer.new size)).steps.symm
  have hkeeps : r.sink.Keeps (max size 1) (p.trace budget capacity) := keeps_runTraced p budget capacity size
  have hnewest : r.sink.toList = newest := by
    rw [hkeeps.toList_eq_min, hlength]
  have hshows := p.exists_shows budget capacity format
  refine ⟨hlength,p.runWritten_unlimited budget capacity format,?_,?_,?_,?_,?_⟩
  · rw [hkeeps.size_eq, hlength]
  · obtain ⟨htook,hok⟩ := r.sink.dump_took none format
    rw [hnewest] at htook hok
    exact ⟨_,Prod.ext rfl (hok.mpr (fits_none _)),htook.toList_eq⟩
  · intro n
    obtain ⟨htook,hok⟩ := r.sink.dump_took (some n) format
    rw [hnewest] at htook hok
    exact ⟨htook.toList_eq,hok.trans fits_some⟩
  · obtain ⟨rows,hrows⟩ := TraceFormat.exists_rows hshows
    have hlines := hrows.imp fun _ _ h => h.line_eq
    exact ⟨rows,hrows,TraceFormat.document_eq_framed hlines,
      TraceFormat.document_eq_framed (forall₂_rtake hlines _)⟩
  · intro fault hfault
    obtain ⟨e,i,he,hip,hi,hop,htext⟩ := getLast?_trace_of_failed hfault
    have hlast : newest.getLast? = some e := by rw [← hnewest, hkeeps.getLast?_eq, he]
    obtain ⟨row,hrow⟩ := hshows e (List.mem_of_getLast? he)
    exact ⟨e,i,row,hlast,hip,hi,hop,htext,hrow,htext ▸ hrow.instruction,TraceFormat.suffix_document hlast hrow⟩

/-- Two is divided by zero. -/
def zeroDivision : Program := ofList [.pushConstant 1, .pushConstant 0, .pushConstant 2, .divide]

/-- What a ring of two slots shows of it: the division and the instruction before it. -/
def zeroDivisionDump : TraceFormat → String
  | .text =>
    "    STEP      IP  INSTRUCTION       STACK                     LOCALS\n" ++
    String.ofList (List.replicate 80 '─') ++ "\n" ++
    "       2       2  iconst 2          [1, 0]                    [0]\n" ++
    "       3       3  idiv              [1, 0, 2]                 [0]\n"
  | .json =>
    "\x7b\"step\":2,\"ip\":2,\"opcode\":\"push_constant\",\"instruction\":\"iconst 2\"," ++
    "\"stack\":[1,0],\"locals\":[0]\x7d\n" ++
    "\x7b\"step\":3,\"ip\":3,\"opcode\":\"divide\",\"instruction\":\"idiv\"," ++
    "\"stack\":[1,0,2],\"locals\":[0]\x7d\n"

lemma document_zeroDivision (format : TraceFormat) :
    format.document ((zeroDivision.trace 4 1).rtake 2) = Text.bytes (zeroDivisionDump format) := by
  cases format <;> decide +kernel

/-- In both formats the dump is this text, and its last line is that of the division. -/
theorem dump_runTraced_division :
    (zeroDivision.runTraced 4 1 (RingBuffer.new 2)).status = .failed (.divisionByZero 3) ∧
    (zeroDivision.runTraced 4 1 (RingBuffer.new 2)).sink.size = 2 ∧
    ∀ format : TraceFormat,
      (∃ o, (zeroDivision.runTraced 4 1 (RingBuffer.new 2)).sink.dump format { limit := none } = (o, .ok ()) ∧
        o.toList = Text.bytes (zeroDivisionDump format)) ∧
      ∃ e row, e.ip = 3 ∧ format.Shows e row ∧ "idiv".toList <:+: row.toList ∧
        Text.bytes row ++ [10] <:+ Text.bytes (zeroDivisionDump format) := by
  have failed : (zeroDivision.runTraced 4 1 (RingBuffer.new 2)).status = .failed (.divisionByZero 3) := rfl
  obtain ⟨_,_,hsize,_⟩ := dump_runTraced zeroDivision 4 1 2 .text
  refine ⟨failed,hsize,fun format => ?_⟩
  obtain ⟨_,_,_,⟨o,hdump,htext⟩,_,_,hlast⟩ := dump_runTraced zeroDivision 4 1 2 format
  have hbytes := document_zeroDivision format
  obtain ⟨e,i,row,_,hip,hi,_,_,hrow,hshown,hends⟩ := hlast _ failed
  obtain rfl := Option.some.inj hi
  exact ⟨⟨o,hdump,htext.trans hbytes⟩,e,row,hip,hrow,hshown,hbytes ▸ hends⟩

end Program
end StackMachine
