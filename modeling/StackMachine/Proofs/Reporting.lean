import StackMachine.Proofs.Written

/-! What is said of a run that is traced. Two things can go wrong, the program and the output, at any step and
at any byte. A program that fails is always reported as such once it has started; only the outcome of a
program that did not fail gives way to a trace that was cut short. So no way of tracing hides what the
program comes to. -/
namespace StackMachine

open Output

namespace Program

variable {p : Program} {budget capacity n : Nat} {format : TraceFormat} {r : Run Writer}
  {limit : Option Nat} {es : List Entry}

lemma writtenOutcome_of_fault {e : Fault} (h : r.status.outcome? = some (.error e)) :
    writtenOutcome r = some (.error (.fault e)) := by
  rw [writtenOutcome, h]
  rfl

lemma writtenOutcome_of_fits {value : Option Word} (h : r.status.outcome? = some (.ok value))
    (hwrote : r.sink.Wrote limit format es) (fits : Fits limit (format.document es)) :
    writtenOutcome r = some (.ok value) := by
  simp only [writtenOutcome, h, Option.map_some, hwrote.finish_iff.mpr fits]

lemma writtenOutcome_of_not_fits {value : Option Word} (h : r.status.outcome? = some (.ok value))
    (hwrote : r.sink.Wrote limit format es) (exceeds : ¬ Fits limit (format.document es)) :
    writtenOutcome r = some (.error (.notWritten .full)) := by
  cases hfinish : r.sink.finish with
  | ok => exact absurd (hwrote.finish_iff.mp hfinish) exceeds
  | error cause =>
    cases cause
    simp only [writtenOutcome, h, Option.map_some, hfinish]

/-- A heading that does not fit is all that comes of any program. -/
lemma fullTrace_of_not_fits (exceeds : ¬ Fits limit format.headerBytes) :
    ∃ o : Output, o.Took limit format.headerBytes ∧ ∀ (p : Program) (budget capacity : Nat),
      p.fullTrace budget capacity format { limit } = (o, some (.error (.notWritten .full))) := by
  obtain ⟨o,hnew,htook⟩ := Writer.new_of_not_fits exceeds
  exact ⟨o,htook,fun p budget capacity => by simp only [fullTrace, runWritten, hnew]⟩

/-- With its heading written, a program runs as if it were not watched. -/
lemma fullTrace_of_fits (p : Program) (budget capacity : Nat) (fits : Fits limit format.headerBytes) :
    ∃ r : Run Writer, p.fullTrace budget capacity format { limit } = (r.sink.output, writtenOutcome r) ∧
      r.status = (p.run budget capacity).status ∧
      r.sink.Wrote limit format (p.trace budget capacity) := by
  obtain ⟨r,hrun,halike,hwrote⟩ := p.runWritten_of_fits budget capacity fits
  exact ⟨r,by simp only [fullTrace, hrun],halike.status,hwrote⟩

/-- An output without a limit takes the whole document of the run. -/
lemma toList_fullTrace_unlimited (p : Program) (budget capacity : Nat) (format : TraceFormat) :
    (p.fullTrace budget capacity format { limit := none }).1.toList =
      format.document (p.trace budget capacity) := by
  obtain ⟨r,hfull,_,hwrote⟩ := p.fullTrace_of_fits budget capacity (fits_none format.headerBytes)
  rw [hfull]
  exact hwrote.took.toList_eq

end Program

namespace Command

open Program

variable {d : Disk} {budget : Nat} {p : Program} {s : Settings}

lemma outcomeOf_eq {status : Status} {outcome : Except Fault (Option Word)}
    (h : status.outcome? = some outcome) : outcomeOf status = some (outcome.mapError .fault) := by
  rw [outcomeOf, h]
  cases outcome <;> rfl

lemma traceResult_writtenOutcome {r : Run Writer} {es : List Entry} {format : TraceFormat}
    (h : r.sink.Wrote none format es) : (writtenOutcome r).map traceResult = outcomeOf r.status := by
  cases ho : r.status.outcome? with
  | none => simp only [writtenOutcome, outcomeOf, ho, Option.map_none]
  | some outcome =>
    rw [outcomeOf_eq ho]
    cases outcome with
    | error e =>
      rw [writtenOutcome_of_fault ho]
      rfl
    | ok value =>
      rw [writtenOutcome_of_fits ho h (fits_none _)]
      rfl

/-- Where the trace can be written, a program comes to the same whatever becomes of the trace. -/
theorem result_execute (d : Disk) (budget : Nat) (p : Program) (s : Settings)
    (writable : s.trace.mode = .full → ∀ path ∈ s.trace.outputPath, d.refusal path = none) :
    (execute d budget p s).result = outcomeOf (p.run budget s.localsCapacity).status := by
  cases hmode : s.trace.mode with
  | off => simp only [execute, hmode]
  | log =>
    have h := alike_runTraced p budget s.localsCapacity ({ listening := true } : Journal) Silence.mk
    simp only [execute, hmode, h.status]
    rfl
  | ringBuffer =>
    have h := alike_runTraced p budget s.localsCapacity (RingBuffer.new s.trace.ringSize) Silence.mk
    simp only [execute, hmode, executeRing, h.status]
    rfl
  | full =>
    obtain ⟨r,hrun,halike,hwrote⟩ :=
      p.runWritten_of_fits budget s.localsCapacity (fits_none s.trace.format.headerBytes)
    have hresult := traceResult_writtenOutcome hwrote
    rw [halike.status] at hresult
    cases hpath : s.trace.outputPath with
    | none => simp only [execute, hmode, executeFull, hpath, hrun, writtenToStderr, hresult]
    | some path =>
      have hrefusal := writable hmode path hpath
      simp only [execute, hmode, executeFull, hpath, hrefusal, hrun, writtenToFile, hresult]

end Command

namespace Program

/-- What a program comes to is never hidden by what becomes of its trace. If not even the heading fits, no program
runs. Otherwise a fault is reported even if the trace was cut short, and a value is reported unless it was; and as
long as the trace can be written, the outcome is the same in all modes, for every ring and format. -/
theorem failure_never_hidden (p : Program) (budget capacity : Nat) :
    (∀ format n, n < format.headerBytes.length →
      (p.fullTrace budget capacity format { limit := some n }).2 = some (.error (.notWritten .full)) ∧
      ∀ (q : Program) (budget' capacity' : Nat), q.fullTrace budget' capacity' format { limit := some n } =
        p.fullTrace budget capacity format { limit := some n }) ∧
    ∀ outcome, (p.run budget capacity).status.outcome? = some outcome →
      (∀ format n, format.headerBytes.length ≤ n →
        (∀ e, outcome = .error e →
          (p.fullTrace budget capacity format { limit := some n }).2 = some (.error (.fault e))) ∧
        ∀ value, outcome = .ok value →
          (p.fullTrace budget capacity format { limit := some n }).2 = some
            (if (p.fullTrace budget capacity format { limit := none }).1.toList.length ≤ n then .ok value
            else .error (.notWritten .full))) ∧
      ∀ (d : Disk) (s : Settings), s.localsCapacity = capacity →
        (s.trace.mode = .full → ∀ path ∈ s.trace.outputPath, d.refusal path = none) →
        (Command.execute d budget p s).result = some (outcome.mapError .fault) := by
  refine ⟨?_,fun outcome houtcome => ⟨?_,?_⟩⟩
  · intro format n hlt
    have exceeds : ¬ Fits (some n) format.headerBytes := by rw [fits_some]; omega
    obtain ⟨o,_,hfull⟩ := fullTrace_of_not_fits exceeds
    exact ⟨by rw [hfull],fun q budget' capacity' => by rw [hfull, hfull]⟩
  · intro format n hle
    obtain ⟨r,hfull,hstatus,hwrote⟩ := p.fullTrace_of_fits budget capacity (fits_some.mpr hle)
    rw [← hstatus] at houtcome
    rw [hfull]
    constructor
    · rintro e rfl
      exact writtenOutcome_of_fault houtcome
    · rintro value rfl
      rw [toList_fullTrace_unlimited]
      split
      next fits => exact writtenOutcome_of_fits houtcome hwrote (fits_some.mpr fits)
      next exceeds => exact writtenOutcome_of_not_fits houtcome hwrote (fun fits => exceeds (fits_some.mp fits))
  · rintro d s rfl writable
    rw [Command.result_execute d budget p s writable, Command.outcomeOf_eq houtcome]

def zeroDivided : Program := ofList [.pushConstant 1, .pushConstant 0, .divide]

/-- A division by zero, watched in full with room for little more than a heading and for less, and watched by a
ring; and a program that returns, with room for some of its trace and for all of it. -/
theorem failure_never_hidden_cut :
    ((zeroDivided.fullTrace 3 1 .text { limit := some 320 }).2 = some (.error (.fault (.divisionByZero 2))) ∧
    (zeroDivided.fullTrace 3 1 .text { limit := some 300 }).2 = some (.error (.notWritten .full)) ∧
    (Command.execute ⟨[],fun _ => false,fun _ => .error .notFound,fun _ => none⟩ 3 zeroDivided
      { localsCapacity := 1, trace := { mode := .ringBuffer, ringSize := 1 } }).result =
      some (.error (.fault (.divisionByZero 2)))) ∧
    (sixReturned.fullTrace 2 1 .json { limit := some 100 }).2 = some (.error (.notWritten .full)) ∧
    (sixReturned.fullTrace 2 1 .json { limit := some 200 }).2 = some (.ok (some 6)) := by
  constructor
  · have hheader : (TraceFormat.headerBytes .text).length = 310 := by decide +kernel
    obtain ⟨hcut,hover⟩ := failure_never_hidden zeroDivided 3 1
    obtain ⟨hfull,hmodes⟩ := hover (.error (.divisionByZero 2)) rfl
    exact ⟨(hfull .text 320 (by omega)).1 _ rfl,(hcut .text 300 (by omega)).1,hmodes _ _ rfl nofun⟩
  · have hlength : (sixReturned.fullTrace 2 1 .json { limit := none }).1.toList.length = 177 := by
      rw [toList_fullTrace_unlimited]
      decide +kernel
    obtain ⟨hfull,_⟩ := (failure_never_hidden sixReturned 2 1).2 (.ok (some 6)) rfl
    have hcut := (hfull .json 100 (by decide)).2 _ rfl
    have hroom := (hfull .json 200 (by decide)).2 _ rfl
    rw [hlength] at hcut hroom
    exact ⟨hcut,hroom⟩

end Program
end StackMachine
