import StackMachine.Proofs.Failure
import StackMachine.Proofs.Layout

/-! Reading a whole program. It is read exactly if each of its lines is, and otherwise the first line that
is no instruction decides what is reported, whatever stands behind it. Reading comes before running: such
a line is reported even where an instruction before it would have ended the run. -/
namespace StackMachine

lemma Status.outcome?_eq_error_iff {s : Status} {e : Fault} :
    s.outcome? = some (.error e) ↔ s = .failed e := by
  cases s <;> simp [Status.outcome?]

namespace Instruction

/-- The line is an instruction, wherever it stands. -/
def Readable (line : String) : Prop := ∃ i, ∀ position, decode line position = .ok i

variable {line : String} {position : Nat}

lemma readable_of_decode {i : Instruction} (h : decode line position = .ok i) : Readable line := by
  refine ⟨i,?_⟩
  intro q
  exact decode_eq_ok_iff.mpr (decode_eq_ok_iff.mp h)

/-- A line that is no instruction is refused at every position. -/
lemma exists_error_of_not_readable (h : ¬ Readable line) (position : Nat) :
    ∃ e, decode line position = .error e := by
  cases hd : decode line position with
  | ok i => exact absurd (readable_of_decode hd) h
  | error e => exact ⟨e,rfl⟩

end Instruction

namespace Program

open Instruction (Readable)

/-- The line `bad` at the index `k` is the first of the lines that is no instruction. -/
inductive FirstBad (bad : String) : List String → Nat → Prop
  | here {later : List String} (unreadable : ¬ Readable bad) : FirstBad bad (bad :: later) 0
  | behind {line : String} {lines : List String} {k : Nat} (readable : Readable line)
      (first : FirstBad bad lines k) : FirstBad bad (line :: lines) (k + 1)

namespace FirstBad

variable {bad : String} {lines : List String} {k : Nat}

lemma unreadable (h : FirstBad bad lines k) : ¬ Readable bad := by
  induction h with
  | here unreadable => exact unreadable
  | behind _ _ ih => exact ih

lemma mem (h : FirstBad bad lines k) : bad ∈ lines := by
  induction h with
  | here => exact List.mem_cons_self
  | behind _ _ ih => exact List.mem_cons_of_mem _ ih

/-- Lines further behind play no part. -/
lemma take_append (h : FirstBad bad lines k) (later : List String) :
    FirstBad bad (lines.take (k + 1) ++ later) k := by
  induction h with
  | here unreadable => exact .here unreadable
  | behind readable _ ih => exact .behind readable ih

/-- Reading stops at the line, with what is wrong with it at its index. -/
lemma decode_eq (h : FirstBad bad lines k) {e : DecodeError} (he : Instruction.decode bad k = .error e) :
    decode lines = .error e := by
  -- Behind the first line indices start at one, so the induction is over every start.
  have hmap : ∀ start, Instruction.decode bad (start + k) = .error e →
      (lines.zipIdx start).mapM (fun line => Instruction.decode line.1 line.2) = .error e := by
    clear he
    induction h with
    | here =>
      intro start he
      rw [List.zipIdx_cons, List.mapM_cons, ← Nat.add_zero start, he]
      rfl
    | @behind line lines k readable _ ih =>
      intro start he
      obtain ⟨i,hi⟩ := readable
      rw [List.zipIdx_cons, List.mapM_cons, hi, ih (start + 1) (by rwa [Nat.add_right_comm])]
      rfl
  rw [decode, hmap 0 (by rwa [Nat.zero_add])]

end FirstBad

/-- Either every line is an instruction, or one is the first that is none. -/
lemma forall₂_or_firstBad (lines : List String) :
    (∃ is, List.Forall₂ (fun line i => ∀ position, Instruction.decode line position = .ok i) lines is) ∨
    ∃ bad k, FirstBad bad lines k := by
  induction lines with
  | nil => exact .inl ⟨[],.nil⟩
  | cons line lines ih =>
    by_cases hline : Readable line
    · obtain ⟨is,his⟩ | ⟨bad,k,hfirst⟩ := ih
      · obtain ⟨i,hi⟩ := hline
        exact .inl ⟨i :: is,.cons hi his⟩
      · exact .inr ⟨bad,k + 1,.behind hline hfirst⟩
    · exact .inr ⟨line,0,.here hline⟩

/-- Lines are read one by one, or up to the first that is no instruction. -/
lemma decode_cases (lines : List String) :
    (∃ is, List.Forall₂ (fun line i => ∀ position, Instruction.decode line position = .ok i) lines is ∧
      decode lines = .ok (ofList is)) ∨
    ∃ bad k e, FirstBad bad lines k ∧ Instruction.decode bad k = .error e ∧ decode lines = .error e := by
  obtain ⟨is,his⟩ | ⟨bad,k,hfirst⟩ := forall₂_or_firstBad lines
  · exact .inl ⟨is,his,decode_of_forall₂ his⟩
  · obtain ⟨e,he⟩ := Instruction.exists_error_of_not_readable hfirst.unreadable k
    exact .inr ⟨bad,k,e,hfirst,he,hfirst.decode_eq he⟩

/-- A program is read exactly if its instructions are read off the lines one by one. -/
theorem decode_eq_ok_iff {lines : List String} {p : Program} : decode lines = .ok p ↔
    List.Forall₂ (fun line i => ∀ position, Instruction.decode line position = .ok i) lines p.toList := by
  constructor
  · intro h
    obtain ⟨is,his,hd⟩ | ⟨_,_,_,_,_,hd⟩ := decode_cases lines
    · rw [hd] at h
      obtain rfl := Except.ok.inj h
      exact his
    · rw [hd] at h
      cases h
  · intro h
    rw [decode_of_forall₂ h, ofList_toList]

/-- Reading fails exactly with what is wrong with the first line that is no instruction. -/
theorem decode_eq_error_iff {lines : List String} {e : DecodeError} : decode lines = .error e ↔
    ∃ bad k, FirstBad bad lines k ∧ Instruction.decode bad k = .error e := by
  constructor
  · intro h
    obtain ⟨_,_,hd⟩ | ⟨bad,k,e',hfirst,he,hd⟩ := decode_cases lines
    · rw [hd] at h
      cases h
    · rw [hd] at h
      obtain rfl := Except.error.inj h
      exact ⟨bad,k,hfirst,he⟩
  · rintro ⟨bad,k,hfirst,he⟩
    exact hfirst.decode_eq he

/-- The instruction at each index is the one on the line there. -/
lemma get?_of_decode {lines : List String} {p : Program} (h : decode lines = .ok p) {k : Nat} {line : String}
    (hline : lines[k]? = some line) : ∃ i, p.get? k = some i ∧ Instruction.decode line k = .ok i := by
  have hall := decode_eq_ok_iff.mp h
  obtain ⟨hk,rfl⟩ := List.getElem?_eq_some_iff.mp hline
  have hk' : k < p.size := Nat.lt_of_lt_of_eq hk hall.length_eq
  exact ⟨_,Array.getElem?_eq_getElem hk',hall.get hk hk' k⟩

theorem exists_decode_iff {lines : List String} :
    (∃ p, decode lines = .ok p) ↔ ∀ line ∈ lines, Readable line := by
  constructor
  · rintro ⟨p,hp⟩ line hline
    obtain ⟨k,hk⟩ := List.mem_iff_getElem?.mp hline
    obtain ⟨i,_,hi⟩ := get?_of_decode hp hk
    exact Instruction.readable_of_decode hi
  · intro h
    obtain ⟨is,_,hd⟩ | ⟨bad,_,_,hfirst,_,_⟩ := decode_cases lines
    · exact ⟨_,hd⟩
    · exact absurd (h bad hfirst.mem) hfirst.unreadable

theorem exists_decode_error_iff {lines : List String} :
    (∃ e, decode lines = .error e) ↔ ∃ line ∈ lines, ¬ Readable line := by
  constructor
  · rintro ⟨e,he⟩
    obtain ⟨bad,k,hfirst,_⟩ := decode_eq_error_iff.mp he
    exact ⟨bad,hfirst.mem,hfirst.unreadable⟩
  · rintro ⟨line,hline,hbad⟩
    cases hd : decode lines with
    | ok p => exact absurd (exists_decode_iff.mp ⟨p,hd⟩ line hline) hbad
    | error e => exact ⟨e,rfl⟩

/-! ### Running what was read -/

/-- A fault at run time is never one of reading. -/
lemma isDecodeError_of_failed {p : Program} {budget capacity : Nat} {e : Fault}
    (h : (p.run budget capacity).status = .failed e) : e.isDecodeError = false := by
  obtain ⟨m,_,i,_,_,hm⟩ := exists_fetch_of_failed h
  rw [run, hm] at h
  exact (exec_failed_iff.mp h).isDecodeError_eq

/-- Running lines gives a fault of reading exactly if the lines cannot be read, however long it may run. -/
theorem runLines_undecodable_iff {lines : List String} {budget capacity : Nat} {e : Fault} :
    runLines lines budget capacity = some (.error e) ∧ e.isDecodeError = true ↔
      ∃ cause, e = .undecodable cause ∧ decode lines = .error cause := by
  unfold runLines
  cases hd : decode lines with
  | error cause =>
    simp only [Option.some.injEq, Except.error.injEq]
    constructor
    · rintro ⟨rfl,_⟩
      exact ⟨cause,rfl,rfl⟩
    · rintro ⟨_,rfl,rfl⟩
      exact ⟨rfl,rfl⟩
  | ok p =>
    constructor
    · rintro ⟨hrun,he⟩
      rw [isDecodeError_of_failed (Status.outcome?_eq_error_iff.mp hrun)] at he
      cases he
    · rintro ⟨_,_,h⟩
      cases h

/-- Running lines gives a fault of reading exactly if some line cannot be read. -/
theorem exists_runLines_undecodable_iff {lines : List String} {budget capacity : Nat} :
    (∃ e, runLines lines budget capacity = some (.error e) ∧ e.isDecodeError = true) ↔
      ∃ line ∈ lines, ¬ Readable line := by
  simp only [← exists_decode_error_iff, runLines_undecodable_iff]
  constructor
  · rintro ⟨_,cause,_,hd⟩
    exact ⟨cause,hd⟩
  · rintro ⟨cause,hd⟩
    exact ⟨_,cause,rfl,hd⟩

/-- Lines are read as a program exactly if each can be read, and then it has the instruction of each line at its
index. Otherwise the first line that is no instruction is reported with its index, whatever stands behind it and
whatever the lines before it would do when they are run. -/
theorem decode_reports_first (lines : List String) :
    ((∃ p, decode lines = .ok p) ↔ ∀ line ∈ lines, Readable line) ∧
    (∀ p, decode lines = .ok p → p.size = lines.length ∧ ∀ (k : Nat) line, lines[k]? = some line →
      ∃ i, p.get? k = some i ∧ Instruction.decode line k = .ok i) ∧
    (∀ e, decode lines = .error e ↔ ∃ bad k, FirstBad bad lines k ∧ Instruction.decode bad k = .error e) ∧
    (∀ bad k later, FirstBad bad lines k → decode (lines.take (k + 1) ++ later) = decode lines) ∧
    ∀ budget capacity,
      ((∃ e, runLines lines budget capacity = some (.error e) ∧ e.isDecodeError = true) ↔
        ∃ line ∈ lines, ¬ Readable line) ∧
      ∀ e, runLines lines budget capacity = some (.error e) → e.isDecodeError = true →
        ∃ bad, FirstBad bad lines e.position := by
  refine ⟨exists_decode_iff,?_,fun e => decode_eq_error_iff,?_,?_⟩
  · intro p hp
    exact ⟨(decode_eq_ok_iff.mp hp).length_eq.symm,fun k line hline => get?_of_decode hp hline⟩
  · intro bad k later hfirst
    obtain ⟨e,he⟩ := Instruction.exists_error_of_not_readable hfirst.unreadable k
    rw [hfirst.decode_eq he, (hfirst.take_append later).decode_eq he]
  · intro budget capacity
    refine ⟨exists_runLines_undecodable_iff,?_⟩
    intro e hrun he
    obtain ⟨cause,rfl,hd⟩ := runLines_undecodable_iff.mp ⟨hrun,he⟩
    obtain ⟨bad,k,hfirst,hbad⟩ := decode_eq_error_iff.mp hd
    refine ⟨bad,?_⟩
    rwa [Fault.position, (Instruction.decode_eq_error_iff.mp hbad).position_eq]

/-- The return before the bad line is never reached, and the bad operand behind it is never looked at. -/
theorem decode_reports_first_return :
    runLines ["iconst 7", "ireturn"] 9 1 = some (.ok (some 7)) ∧
    runLines ["iconst 7", "ireturn", "nop", "iconst x"] 9 1 =
      some (.error (.undecodable (.unknownOpcode "nop" 2))) ∧
    ∃ bad, FirstBad bad ["iconst 7", "ireturn", "nop", "iconst x"] 2 := by
  refine ⟨rfl,rfl,?_⟩
  obtain ⟨_,_,_,_,hrun⟩ := decode_reports_first ["iconst 7", "ireturn", "nop", "iconst x"]
  exact (hrun 9 1).2 _ rfl rfl

end Program
end StackMachine
