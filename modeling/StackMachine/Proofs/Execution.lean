import StackMachine.Proofs.Rounds
import StackMachine.Proofs.Step

/-! Executing a stretch of a program, from one frame to another. A run that passes through a frame goes on
in the same way whatever came before and whatever watches it, so stretches are put together one behind the
other. -/
namespace StackMachine.Program

/-- A run under way in the frame `f` is under way in the frame `g` after `n` rounds. -/
def Reaches (p : Program) (n : Nat) (f g : Frame) : Prop :=
  ∀ (σ : Type) [Sink σ] (r : Run σ), r.status = .running → r.frame = f →
    (r.rounds p n).status = .running ∧ (r.rounds p n).frame = g

/-- A run under way in the frame `f` has come to `status` after `n` rounds. -/
def ComesTo (p : Program) (n : Nat) (f : Frame) (status : Status) : Prop :=
  ∀ (σ : Type) [Sink σ] (r : Run σ), r.status = .running → r.frame = f → (r.rounds p n).status = status

/-- The instructions `is` stand in the program from the index `k` on. -/
def Holds (p : Program) (k : Nat) (is : List Instruction) : Prop :=
  ∃ before after, before.length = k ∧ p.toList = before ++ is ++ after

variable {p : Program} {m n k : Nat} {f g h : Frame} {i : Instruction} {status : Status}

lemma Reaches.trans (hf : p.Reaches m f g) (hg : p.Reaches n g h) : p.Reaches (m + n) f h := by
  intro σ _ r hr hframe
  obtain ⟨hrunning,hreached⟩ := hf σ r hr hframe
  rw [Run.rounds_add]
  exact hg σ _ hrunning hreached

lemma Reaches.comesTo (hf : p.Reaches m f g) (hg : p.ComesTo n g status) :
    p.ComesTo (m + n) f status := by
  intro σ _ r hr hframe
  obtain ⟨hrunning,hreached⟩ := hf σ r hr hframe
  rw [Run.rounds_add]
  exact hg σ _ hrunning hreached

lemma rounds_one {σ : Type} [Sink σ] {r : Run σ} (hr : r.status = .running)
    (fetch : p.get? r.frame.ip = some i) : r.rounds p 1 = r.exec p i := by
  rw [Run.rounds_succ_of_running 0 hr, Run.rounds, Run.round_of_fetch fetch]

/-- An instruction that goes on to the next is one round. -/
lemma reaches_next (fetch : p.get? f.ip = some i) (steps : Steps p.size f i g (.ok .next)) :
    p.Reaches 1 f (g.setIp (f.ip + 1)) := by
  rintro σ _ r hr rfl
  rw [rounds_one hr fetch, Run.exec_eq, steps.eq_step, ← steps.ip_eq]
  exact ⟨rfl,rfl⟩

/-- One round decides what becomes of a run at the instruction that it fetches. -/
lemma comesTo_of_steps {result : Except Fault Flow} (fetch : p.get? f.ip = some i)
    (steps : Steps p.size f i g result) : p.ComesTo 1 f (Status.after result) := by
  rintro σ _ r hr rfl
  rw [rounds_one hr fetch, Run.exec_eq, steps.eq_step]

/-- An instruction that sends control elsewhere is one round. -/
lemma reaches_jump (fetch : p.get? f.ip = some i) (steps : Steps p.size f i g (.ok (.jump n))) :
    p.Reaches 1 f (g.setIp n) := by
  rintro σ _ r hr rfl
  rw [rounds_one hr fetch, Run.exec_eq, steps.eq_step]
  exact ⟨rfl,rfl⟩

/-- What a fresh frame comes to is the outcome of the run, and more rounds do not change it. -/
lemma ComesTo.status_run {capacity : Nat} (h : p.ComesTo n (Frame.new capacity) status)
    (hover : status ≠ .running) (hmn : n ≤ m) : (p.run m capacity).status = status := by
  have hn : (p.run n capacity).status = status := h _ _ rfl rfl
  unfold run at hn ⊢
  rw [runTraced_of_le (hn ▸ hover) hmn, hn]

namespace Holds

variable {is js : List Instruction}

lemma append_left (h : p.Holds k (is ++ js)) : p.Holds k is := by
  obtain ⟨before,after,hk,hp⟩ := h
  exact ⟨before,js ++ after,hk,by simp [hp]⟩

lemma append_right (h : p.Holds k (is ++ js)) : p.Holds (k + is.length) js := by
  obtain ⟨before,after,rfl,hp⟩ := h
  exact ⟨before ++ is,after,List.length_append,by simp [hp]⟩

lemma get?_eq (h : p.Holds k (i :: is)) : p.get? k = some i := by
  obtain ⟨before,after,rfl,hp⟩ := h
  rw [← getElem?_toList, hp]
  simp

end Holds

/-- Instructions that run one behind the other, from the frame `f` to the frame `g`, without a jump. -/
inductive Passes (length : Nat) : List Instruction → Frame → Frame → Prop
  | nil (f : Frame) : Passes length [] f f
  | cons {i : Instruction} {is : List Instruction} {f g h : Frame} (steps : Steps length f i g (.ok .next))
      (more : Passes length is (g.setIp (f.ip + 1)) h) : Passes length (i :: is) f h

/-- Wherever such instructions stand in a program, they are a round each. -/
theorem Passes.reaches {is : List Instruction} (hpasses : Passes p.size is f g) (hp : p.Holds f.ip is) :
    p.Reaches is.length f g := by
  induction hpasses with
  | nil f =>
    intro σ _ r hr hframe
    exact ⟨hr,hframe⟩
  | @cons i is f g h steps more ih =>
    have hcode : p.Holds f.ip ([i] ++ is) := hp
    have hrest := (reaches_next hp.get?_eq steps).trans (ih hcode.append_right)
    rwa [Nat.add_comm] at hrest

lemma holds_ofList (is : List Instruction) : (ofList is).Holds 0 is := ⟨[],[],rfl,by simp⟩

end StackMachine.Program
