import StackMachine.Proofs.Observation
import StackMachine.Shell.Command

/-! Traces on an output that may run full. An output keeps the first bytes of what it is given, up to its
limit. So a run that is written to it leaves the first bytes of the whole trace, and everything was
written exactly if the whole trace fits. -/
namespace StackMachine

namespace Output

/-- What an output with this limit keeps of a text. -/
def keep (limit : Option Nat) (text : List UInt8) : List UInt8 := limit.elim text text.take

/-- The output has room for all of the text. -/
def Fits (limit : Option Nat) (text : List UInt8) : Prop := ∀ n ∈ limit, text.length ≤ n

@[simp] theorem keep_none (text : List UInt8) : keep none text = text := rfl

@[simp] theorem keep_some (n : Nat) (text : List UInt8) : keep (some n) text = text.take n := rfl

@[simp] theorem fits_none (text : List UInt8) : Fits none text := by simp [Fits]

@[simp] theorem fits_some {n : Nat} {text : List UInt8} : Fits (some n) text ↔ text.length ≤ n := by
  simp [Fits]

variable {limit : Option Nat} {text : List UInt8}

lemma keep_of_fits (h : Fits limit text) : keep limit text = text := by
  cases limit with
  | none => rfl
  | some n => exact List.take_of_length_le (fits_some.mp h)

lemma Fits.of_append {more : List UInt8} (h : Fits limit (text ++ more)) : Fits limit text := by
  intro n hn
  have hle := h n hn
  rw [List.length_append] at hle
  omega

/-- Behind a text that did not fit nothing is kept. -/
lemma keep_append_of_not_fits (h : ¬ Fits limit text) (more : List UInt8) :
    keep limit (text ++ more) = keep limit text := by
  cases limit with
  | none => exact absurd (fits_none text) h
  | some n =>
    rw [fits_some] at h
    exact List.take_append_of_le_length (by omega)

/-- The output was given this text, and kept what it has room for. -/
structure Took (o : Output) (limit : Option Nat) (text : List UInt8) : Prop where
  limit_eq : o.limit = limit
  toList_eq : o.toList = keep limit text

lemma took_empty (limit : Option Nat) : ({ limit } : Output).Took limit [] where
  limit_eq := rfl
  toList_eq := by cases limit <;> simp [toList]

variable {o : Output} {bytes : ByteArray}

/-- A write goes through if what it adds still fits. -/
theorem Took.write_of_fits (h : o.Took limit text) (fits : Fits limit (text ++ bytes.data.toList)) :
    ∃ o' : Output, o.write bytes = (o', .ok ()) ∧ o'.Took limit (text ++ bytes.data.toList) := by
  have htext : o.toList = text := h.toList_eq.trans (keep_of_fits fits.of_append)
  have hnew : ({ o with written := o.written ++ bytes } : Output).Took limit
      (text ++ bytes.data.toList) := by
    refine ⟨h.limit_eq,?_⟩
    rw [keep_of_fits fits, ← htext]
    simp [toList]
  refine ⟨_,?_,hnew⟩
  cases hl : o.limit with
  | none => simp only [write, hl]
  | some n =>
    rw [← h.limit_eq, hl, fits_some, ← htext] at fits
    have hroom : bytes.size ≤ n - o.written.size := by
      simp only [toList, List.length_append, Array.length_toList, ByteArray.size_data] at fits
      omega
    simp only [write, hl, hroom, if_true]

/-- A write that does not fit is refused, with the output filled to its limit. -/
theorem Took.write_of_not_fits (h : o.Took limit text) (fits : Fits limit text)
    (exceeds : ¬ Fits limit (text ++ bytes.data.toList)) :
    ∃ o' : Output, o.write bytes = (o', .error .full) ∧ o'.Took limit (text ++ bytes.data.toList) := by
  have htext : o.toList = text := h.toList_eq.trans (keep_of_fits fits)
  cases limit with
  | none => exact absurd (fits_none _) exceeds
  | some n =>
    have hl := h.limit_eq
    have hsize : text.length = o.written.size := by simp [← htext, toList]
    have hbytes : bytes.data.toList.length = bytes.size := by simp
    rw [fits_some] at fits exceeds
    rw [List.length_append] at exceeds
    have hroom : ¬ bytes.size ≤ n - o.written.size := by omega
    refine ⟨{ o with written := o.written ++ bytes.extract 0 (n - o.written.size) },?_,hl,?_⟩
    · simp only [write, hl, hroom, if_false]
    -- The first part is all of the old text, and the rest is cut where the room ends.
    · rw [keep_some, List.take_append, List.take_of_length_le fits, hsize, ← htext]
      simp [toList]

lemma Took.append_of_not_fits (h : o.Took limit text) (exceeds : ¬ Fits limit text) (more : List UInt8) :
    o.Took limit (text ++ more) :=
  ⟨h.limit_eq,h.toList_eq.trans (keep_append_of_not_fits exceeds more).symm⟩

end Output

namespace TraceFormat

/-- The bytes of the heading. -/
def headerBytes (f : TraceFormat) : List UInt8 := f.header.toUTF8.data.toList

example : headerBytes .json = [] := by decide

/-- The bytes of the line of an entry. -/
def lineBytes (f : TraceFormat) (e : Entry) : List UInt8 := (f.line e).toUTF8.data.toList

/-- The heading followed by the lines of these entries. -/
def document (f : TraceFormat) (es : List Entry) : List UInt8 := f.headerBytes ++ es.flatMap f.lineBytes

lemma document_append (f : TraceFormat) (es more : List Entry) :
    f.document (es ++ more) = f.document es ++ more.flatMap f.lineBytes := by
  simp [document]

lemma document_concat (f : TraceFormat) (es : List Entry) (e : Entry) :
    f.document (es ++ [e]) = f.document es ++ (f.line e).toUTF8.data.toList := by
  simp [document, lineBytes]

end TraceFormat

namespace Writer

open Output

variable {limit : Option Nat} {format : TraceFormat} {es : List Entry} {w : Writer}

/-- The writer was shown these entries: its output kept what it has room for of their document, and it
remembers a failure exactly if that is not all of it. -/
structure Wrote (w : Writer) (limit : Option Nat) (format : TraceFormat) (es : List Entry) : Prop where
  format_eq : w.format = format
  took : w.output.Took limit (format.document es)
  failure_iff : w.failure = none ↔ Fits limit (format.document es)

lemma new_of_fits (h : Fits limit format.headerBytes) :
    ∃ w, Writer.new format { limit } = .ok w ∧ w.Wrote limit format [] := by
  have hdoc : format.document [] = [] ++ format.headerBytes := by simp [TraceFormat.document]
  obtain ⟨o,hwrite,htook⟩ := (took_empty limit).write_of_fits h
  refine ⟨{ format, output := o },by simp only [Writer.new, hwrite],rfl,hdoc ▸ htook,?_⟩
  exact iff_of_true rfl (hdoc ▸ h)

lemma new_of_not_fits (h : ¬ Fits limit format.headerBytes) :
    ∃ o, Writer.new format { limit } = .error (.full, o) ∧ o.Took limit format.headerBytes := by
  have hnil : Fits limit [] := fun n _ => Nat.zero_le n
  obtain ⟨o,hwrite,htook⟩ := (took_empty limit).write_of_not_fits hnil h
  exact ⟨o,by simp only [Writer.new, hwrite],htook⟩

lemma Wrote.enabled_iff (h : w.Wrote limit format es) :
    w.enabled = true ↔ Fits limit (format.document es) := by
  rw [← h.failure_iff, enabled, Option.isNone_iff_eq_none]

lemma Wrote.finish_iff (h : w.Wrote limit format es) :
    w.finish = .ok () ↔ Fits limit (format.document es) := by
  rw [← h.failure_iff, finish]
  cases w.failure <;> simp

lemma Wrote.writeEntry_of_fits (h : w.Wrote limit format es) {e : Entry}
    (fits : Fits limit (format.document (es ++ [e]))) :
    ∃ w', w.writeEntry e = (w', .ok ()) ∧ w'.Wrote limit format (es ++ [e]) := by
  rw [TraceFormat.document_concat] at fits
  have hnone : w.failure = none := h.failure_iff.mpr fits.of_append
  obtain ⟨o,hwrite,htook⟩ := h.took.write_of_fits fits
  rw [← TraceFormat.document_concat] at fits htook
  refine ⟨{ w with output := o },?_,h.format_eq,htook,iff_of_true hnone fits⟩
  simp only [writeEntry, h.format_eq, hwrite]

lemma Wrote.writeEntry_of_not_fits (h : w.Wrote limit format es) (fits : Fits limit (format.document es))
    {e : Entry} (exceeds : ¬ Fits limit (format.document (es ++ [e]))) :
    ∃ o, w.writeEntry e = ({ w with output := o }, .error .full) ∧
      o.Took limit (format.document (es ++ [e])) := by
  rw [TraceFormat.document_concat] at exceeds
  obtain ⟨o,hwrite,htook⟩ := h.took.write_of_not_fits fits exceeds
  rw [← TraceFormat.document_concat] at htook
  refine ⟨o,?_,htook⟩
  simp only [writeEntry, h.format_eq, hwrite]

/-- Showing one more entry. A writer that has failed writes nothing more, and nothing more would fit. -/
theorem Wrote.offer (h : w.Wrote limit format es) (e : Entry) :
    (Sink.offer w e).Wrote limit format (es ++ [e]) := by
  by_cases fits : Fits limit (format.document es)
  · have henabled : Sink.enabled w = true := h.enabled_iff.mpr fits
    rw [Sink.offer, if_pos henabled]
    change (w.record e).Wrote limit format (es ++ [e])
    by_cases fits' : Fits limit (format.document (es ++ [e]))
    · obtain ⟨w',hwrite,hwrote⟩ := h.writeEntry_of_fits fits'
      simpa only [record, hwrite] using hwrote
    · obtain ⟨o,hwrite,htook⟩ := h.writeEntry_of_not_fits fits fits'
      simp only [record, hwrite]
      exact ⟨h.format_eq,htook,iff_of_false (by simp) fits'⟩
  · have hdisabled : ¬ Sink.enabled w = true := fun he => fits (h.enabled_iff.mp he)
    rw [Sink.offer, if_neg hdisabled]
    refine ⟨h.format_eq,?_,?_⟩
    · rw [TraceFormat.document_append]
      exact h.took.append_of_not_fits fits _
    · rw [TraceFormat.document_append]
      exact iff_of_false (fun hn => fits (h.failure_iff.mp hn)) (fun hf => fits hf.of_append)

end Writer

namespace Program

open Output

variable {limit : Option Nat} {format : TraceFormat}

/-- A run whose heading fits is written: its output keeps what it has room for of the whole trace. -/
theorem runWritten_of_fits (p : Program) (budget capacity : Nat) (h : Fits limit format.headerBytes) :
    ∃ r, p.runWritten budget capacity format { limit } = .ok r ∧
      r.Alike (p.run budget capacity) ∧ r.sink.Wrote limit format (p.trace budget capacity) := by
  obtain ⟨w,hnew,hwrote⟩ := Writer.new_of_fits h
  refine ⟨p.runTraced budget capacity w,by simp only [runWritten, hnew],?_,?_⟩
  · exact alike_runTraced p budget capacity w Silence.mk
  · rw [sink_runTraced]
    exact foldl_invariant (P := fun es w => Writer.Wrote w limit format es) (fun _ _ e h => h.offer e)
      hwrote (p.trace budget capacity)

/-- A trace without a limit is the document of the run. -/
lemma runWritten_unlimited (p : Program) (budget capacity : Nat) (format : TraceFormat) :
    ∃ full, p.runWritten budget capacity format { limit := none } = .ok full ∧
      full.sink.output.toList = format.document (p.trace budget capacity) := by
  obtain ⟨full,hrun,_,hwrote⟩ := p.runWritten_of_fits budget capacity (fits_none format.headerBytes)
  exact ⟨full,hrun,hwrote.took.toList_eq⟩

/-- An output with a limit ends up with the first bytes of what the run writes without one, which is its whole
trace. If not even the heading fits, there is no writer and nothing runs. Otherwise the run goes as if unwatched,
and the writer is enabled, and finishes well, exactly if everything was written. -/
theorem runWritten_limited (p : Program) (budget capacity : Nat) (format : TraceFormat) :
    ∃ full, p.runWritten budget capacity format { limit := none } = .ok full ∧
      full.sink.output.toList = format.document (p.trace budget capacity) ∧ ∀ n,
      (n < format.headerBytes.length →
        ∃ o, Writer.new format { limit := some n } = .error (.full, o) ∧
          p.runWritten budget capacity format { limit := some n } = .error (.full, o) ∧
          o.toList = format.headerBytes.take n) ∧
      (format.headerBytes.length ≤ n →
        ∃ r, p.runWritten budget capacity format { limit := some n } = .ok r ∧
          r.status = (p.run budget capacity).status ∧
          r.sink.output.toList =
            full.sink.output.toList.take (min n full.sink.output.toList.length) ∧
          (r.sink.enabled = true ↔ r.sink.finish = .ok ()) ∧
          (r.sink.finish = .ok () ↔ full.sink.output.toList.length ≤ n)) := by
  obtain ⟨full,hfull,htext⟩ := p.runWritten_unlimited budget capacity format
  refine ⟨full,hfull,htext,fun n => ⟨?_,?_⟩⟩
  · intro hlt
    have exceeds : ¬ Fits (some n) format.headerBytes := by rw [fits_some]; omega
    obtain ⟨o,hnew,htook⟩ := Writer.new_of_not_fits exceeds
    exact ⟨o,hnew,by simp only [runWritten, hnew],htook.toList_eq⟩
  · intro hle
    obtain ⟨r,hrun,halike,hwrote⟩ := p.runWritten_of_fits budget capacity (fits_some.mpr hle)
    refine ⟨r,hrun,halike.status,?_,?_,?_⟩
    · rw [hwrote.took.toList_eq, htext, keep_some, List.take_eq_take_min]
    · rw [hwrote.enabled_iff, hwrote.finish_iff]
    · rw [hwrote.finish_iff, fits_some, htext]

def sixReturned : Program := ofList [.pushConstant 6, .return]

/-- The first bytes of its trace, up to a place inside the second line. -/
def sixReturnedCut : String :=
  "\x7b\"step\":0,\"ip\":0,\"opcode\":\"push_constant\",\"instruction\":\"iconst 6\"," ++
    "\"stack\":[],\"locals\":[0]\x7d\n" ++
  "\x7b\"step\":"

/-- Room for one line and a part of the next. -/
theorem runWritten_limited_cut :
    ∃ r, sixReturned.runWritten 2 1 .json { limit := some 100 } = .ok r ∧ r.status = .returned 6 ∧
      r.sink.output.toList = sixReturnedCut.toUTF8.data.toList ∧ r.sink.finish ≠ .ok () := by
  obtain ⟨full,_,htext,hlimited⟩ := runWritten_limited sixReturned 2 1 .json
  obtain ⟨r,hrun,hstatus,hkept,_,hfinish⟩ := (hlimited 100).2 (by decide)
  have hlength : (TraceFormat.document .json (sixReturned.trace 2 1)).length = 177 := by decide +kernel
  have hcut : (TraceFormat.document .json (sixReturned.trace 2 1)).take 100 =
      sixReturnedCut.toUTF8.data.toList := by
    decide +kernel
  rw [htext, hlength] at hkept hfinish
  exact ⟨r,hrun,hstatus,hkept.trans hcut,fun h => absurd (hfinish.mp h) (by decide)⟩

end Program
end StackMachine
