import Mathlib.Data.List.Perm.Subperm
import StackMachine.Proofs.Replay

/-! Programs whose jumps all go forward. From one fetch to the next the instruction pointer then only moves
on, so a run fetches no instruction twice and is over once it has passed the last one, whatever is on the
stack and whichever branches are taken. -/
namespace StackMachine

/-- Where a jump or a branch goes. -/
def Instruction.jumpTarget? : Instruction → Option Word
  | .jump target | .branchIfEqual target | .branchIfNotEqual target => some target
  | _ => none

/-- Every target stands behind the instruction that goes there, or is negative, so that going there fails. -/
def Program.Forward (p : Program) : Prop :=
  ∀ ip i, p.get? ip = some i → ∀ target ∈ i.jumpTarget?, (ip : Int) < target.toInt ∨ target.toInt < 0

variable {σ : Type} {p : Program} {capacity n : Nat} {f g : Frame} {i : Instruction}

/-- Look at each instruction with its index. -/
def Program.isForward (p : Program) : Bool :=
  p.toList.zipIdx.all fun line => line.1.jumpTarget?.all fun target =>
    (line.2 : Int) < target.toInt || target.toInt < 0

lemma Program.isForward_iff : p.isForward = true ↔ p.Forward := by
  simp only [isForward, List.all_eq_true, Option.all_eq_true, Bool.or_eq_true, decide_eq_true_iff]
  constructor
  · intro h ip i hi target htarget
    have hline : (i, ip) ∈ p.toList.zipIdx := by rwa [List.mem_zipIdx_iff_getElem?, getElem?_toList]
    exact h (i, ip) hline target htarget
  · rintro h ⟨i,ip⟩ hline target htarget
    rw [List.mem_zipIdx_iff_getElem?, getElem?_toList] at hline
    exact h ip i hline target htarget

instance (p : Program) : Decidable p.Forward := decidable_of_iff _ p.isForward_iff

lemma GoesTo.mem_jumpTarget? {target : Word} (h : GoesTo f target i) : target ∈ i.jumpTarget? := by
  cases h <;> rfl

/-- A jump that succeeds goes where its instruction says. -/
lemma Steps.exists_jumpTarget {length : Nat} (h : Steps length f i g (.ok (.jump n))) :
    ∃ target ∈ i.jumpTarget?, target.toInt = n := by
  cases h with
  | goTo goes inside => exact ⟨_,goes.mem_jumpTarget?,(boundedIndex?_eq_some_iff.mp inside).1⟩

/-- One step of a program that goes forward leads on. -/
lemma Leads.ip_lt (hp : p.Forward) (h : Leads p f g) : f.ip < g.ip := by
  cases h with
  | next => exact Nat.lt_succ_self f.ip
  | @jump i _ ip fetch steps =>
    obtain ⟨target,htarget,hip⟩ := (steps_iff.mpr steps).exists_jumpTarget
    have hforward := hp f.ip i fetch target htarget
    change f.ip < ip
    omega

/-- Steps that each lead on make the positions of the fetches increase. -/
lemma Follows.ips_increase {es : List Entry} (hp : p.Forward) (h : Follows p capacity es) :
    (es.map Entry.ip).Pairwise (· < ·) := by
  rw [← List.isChain_iff_pairwise, List.isChain_map]
  exact h.linked.imp fun _ _ hleads => hleads.ip_lt hp

/-- Positions that increase are met once each, and there are no more of them than instructions. -/
lemma Follows.length_le {es : List Entry} (hp : p.Forward) (h : Follows p capacity es) :
    es.length ≤ p.size := by
  have hnodup : (es.map Entry.ip).Nodup := (h.ips_increase hp).imp Nat.ne_of_lt
  have hsubset : es.map Entry.ip ⊆ List.range p.size := by
    intro ip hip
    obtain ⟨e,he,rfl⟩ := List.mem_map.mp hip
    obtain ⟨i,hi,_⟩ := h.described e he
    exact List.mem_range.mpr (Program.exists_get?_iff.mp ⟨i,hi⟩)
  have hle := (List.subperm_of_subset hnodup hsubset).length_le
  rwa [List.length_map, List.length_range] at hle

lemma Status.exists_outcome {s : Status} (h : s ≠ .running) : ∃ outcome, s.outcome? = some outcome := by
  cases s with
  | running => exact absurd rfl h
  | _ => exact ⟨_,rfl⟩

namespace Program

variable [Sink σ] {sink : σ}

/-- While a run is under way, every round has run an instruction. -/
lemma steps_of_running (h : (p.runTraced n capacity sink).status = .running) :
    (p.runTraced n capacity sink).steps = n := by
  induction n with
  | zero => rfl
  | succ n ih =>
    obtain ⟨hr,he⟩ | ⟨hr,⟨_,he⟩ | ⟨i,_,he⟩⟩ := runTraced_succ_cases p n capacity sink
    · exact absurd (he ▸ h) hr
    · rw [he] at h
      cases h
    · rw [he, Run.exec_eq, ih hr]

/-- A program that goes forward is over after as many rounds as it has instructions, and one more to find
its end. -/
lemma Forward.ne_running (hp : p.Forward) (hn : p.size < n) :
    (p.runTraced n capacity sink).status ≠ .running := by
  intro hr
  have htold := told_runTraced p n capacity sink
  have hle := htold.length_le hp
  rw [← htold.steps, steps_of_running hr] at hle
  omega

/-- A program that goes forward ends, with some outcome, for every size of its local table and under every
sink. Its fetches are at increasing positions, so that it runs each instruction at most once, and what a
sink is shown is one entry for each of them. -/
theorem ends_of_forward (p : Program) (hp : p.Forward) (capacity : Nat) (sink : σ) :
    (∃ outcome, p.EndsWith capacity sink outcome ∧
      ∀ n, p.size < n → (p.runTraced n capacity sink).status.outcome? = some outcome) ∧
    ∀ n, ((p.trace n capacity).map Entry.ip).Pairwise (· < ·) ∧
      (p.runTraced n capacity sink).steps ≤ p.size ∧
      (p.trace n capacity).length = (p.runTraced n capacity sink).steps ∧
      (p.runTraced n capacity sink).sink = (p.trace n capacity).foldl Sink.offer sink := by
  constructor
  · have hover : (p.runTraced (p.size + 1) capacity sink).status ≠ .running :=
      hp.ne_running p.size.lt_succ_self
    obtain ⟨outcome,ho⟩ := Status.exists_outcome hover
    refine ⟨outcome,⟨_,ho⟩,?_⟩
    intro n hn
    rw [runTraced_of_le hover hn, ho]
  · intro n
    have htold := told_runTraced p n capacity sink
    exact ⟨htold.ips_increase hp,htold.steps ▸ htold.length_le hp,htold.steps.symm,
      sink_runTraced p n capacity sink⟩

/-- A branch to a position far behind the end, and a jump to a negative one behind it. -/
def farBranch : Program := ofList [.pushConstant 1, .pushConstant 1, .branchIfEqual 9, .jump (-1)]

/-- The branch is taken, and the jump is never reached. -/
theorem ends_of_forward_branch :
    farBranch.Forward ∧
    (∃ outcome, farBranch.EndsWith 0 Silence.mk outcome ∧
      (farBranch.run 5 0).status.outcome? = some outcome) ∧
    ((farBranch.trace 5 0).map Entry.ip).Pairwise (· < ·) ∧
    (farBranch.run 5 0).steps ≤ 4 := by
  have hp : farBranch.Forward := by decide
  obtain ⟨⟨outcome,hends,hover⟩,hruns⟩ := ends_of_forward _ hp 0 Silence.mk
  obtain ⟨hips,hsteps,_⟩ := hruns 5
  exact ⟨hp,⟨outcome,hends,hover 5 (by decide)⟩,hips,hsteps⟩

end Program
end StackMachine
