import Mathlib.Tactic.Ring
import StackMachine.Proofs.Execution
import StackMachine.Proofs.Layout

/-! A loop that counts down. The first local is the counter and the second one the sum of the values that the
counter has had; both wrap. Each turn of the loop takes one from the counter, seen as a number without a sign,
so a negative start is only a distant one. -/
namespace StackMachine.Countdown

open Program (Passes)

/-- Add up the numbers from `n` down to one. -/
def lines (n : Word) : List String :=
  ["iconst " ++ Text.wordText n, "istore 0", "iconst 0",
   "iload 0", "if_icmpeq 15",
   "iload 1", "iload 0", "iadd", "istore 1", "iconst 1", "iload 0", "isub", "istore 0", "iconst 0",
   "goto 3",
   "iload 1", "ireturn"]

/-- Set the counter, and put down the zero that it is compared with. -/
def setup (n : Word) : List Instruction := [.pushConstant n, .storeLocal 0, .pushConstant 0]

/-- Leave the loop when the counter is zero. -/
def test : List Instruction := [.loadLocal 0, .branchIfEqual 15]

/-- Add the counter to the sum, take one from the counter, and put down the zero again. -/
def body : List Instruction :=
  [.loadLocal 1, .loadLocal 0, .add, .storeLocal 1, .pushConstant 1, .loadLocal 0, .subtract, .storeLocal 0,
   .pushConstant 0]

def program (n : Word) : Program :=
  .ofList (setup n ++ (test ++ body ++ [.jump 3, .loadLocal 1, .return]))

lemma decode_lines (n : Word) : Program.decode (lines n) = .ok (program n) := by
  have hfirst : "iconst " ++ Text.wordText n = (Instruction.pushConstant n).text :=
    congrArg (· ++ Text.wordText n) (show "iconst " = "iconst" ++ " " by decide)
  rw [lines, hfirst]
  apply Program.decode_of_forall₂
  refine .cons (fun _ => Instruction.decode_eq_ok_iff.mpr (Instruction.spells_text _)) ?_
  -- The other lines are fixed texts.
  repeat refine .cons (fun _ => rfl) ?_
  exact .nil

/-- The locals begin with this counter and this sum. -/
structure Counts (counter sum : Word) (locals : Array Word) : Prop where
  counter_eq : locals[0]? = some counter
  sum_eq : locals[1]? = some sum

namespace Counts

variable {counter sum : Word} {locals : Array Word}

lemma size_locals (h : Counts counter sum locals) : 1 < locals.size :=
  (Array.getElem?_eq_some_iff.mp h.sum_eq).1

lemma slot_zero (h : Counts counter sum locals) : slot? 0 locals.size = some 0 :=
  boundedIndex?_eq_some_iff.mpr ⟨rfl,Nat.lt_of_succ_lt h.size_locals⟩

lemma slot_one (h : Counts counter sum locals) : slot? 1 locals.size = some 1 :=
  boundedIndex?_eq_some_iff.mpr ⟨rfl,h.size_locals⟩

lemma setCounter (h : Counts counter sum locals) (v : Word) : Counts v sum (locals.setIfInBounds 0 v) where
  counter_eq := by simp [Nat.lt_of_succ_lt h.size_locals]
  sum_eq := by simp [h.sum_eq]

lemma setSum (h : Counts counter sum locals) (v : Word) : Counts counter v (locals.setIfInBounds 1 v) where
  counter_eq := by simp [h.counter_eq]
  sum_eq := by simp [h.size_locals]

end Counts

variable {n counter sum : Word} {locals : Array Word}

/-! ### One turn -/

lemma passes_setup (h : Counts counter sum locals) (length : Nat) :
    Passes length (setup n) ⟨[],locals,0⟩ ⟨[0],locals.setIfInBounds 0 n,3⟩ :=
  .cons (.push n) (.cons (.store rfl h.slot_zero) (.cons (.push 0) (.nil _)))

lemma passes_body (h : Counts counter sum locals) (length : Nat) :
    Passes length body ⟨[],locals,5⟩
      ⟨[0],(locals.setIfInBounds 1 (counter + sum)).setIfInBounds 0 (counter - 1),14⟩ := by
  have hsum := h.setSum (counter + sum)
  exact .cons (.load h.slot_one h.sum_eq) (.cons (.load h.slot_zero h.counter_eq) (.cons
    (.arithmetic rfl rfl) (.cons (.store rfl h.slot_one) (.cons (.push 1) (.cons
    (.load hsum.slot_zero hsum.counter_eq) (.cons (.arithmetic rfl rfl) (.cons
    (.store rfl hsum.slot_zero) (.cons (.push 0) (.nil _)))))))))

lemma holds_program (n : Word) :
    (program n).Holds 0 (setup n) ∧ (program n).Holds 3 (test ++ body) := by
  have h := Program.holds_ofList (setup n ++ (test ++ body ++ [.jump 3, .loadLocal 1, .return]))
  exact ⟨h.append_left,h.append_right.append_left⟩

/-- A turn of the loop adds the counter to the sum and takes one from it. -/
theorem turn (h : Counts counter sum locals) (hne : counter ≠ 0) :
    ∃ locals', Counts (counter - 1) (counter + sum) locals' ∧
      (program n).Reaches 12 ⟨[0],locals,3⟩ ⟨[0],locals',3⟩ := by
  refine ⟨_,(h.setSum (counter + sum)).setCounter (counter - 1),?_⟩
  have hturn : Passes (program n).size (test ++ body) ⟨[0],locals,3⟩ _ :=
    .cons (.load h.slot_zero h.counter_eq) (.cons (.fallThrough (.equal rfl hne)) (passes_body h _))
  exact (hturn.reaches (holds_program n).2).trans (Program.reaches_jump rfl (.goTo .jump rfl))

/-- With the counter at zero the sum is returned. -/
theorem leaves (h : Counts 0 sum locals) :
    (program n).ComesTo 4 ⟨[0],locals,3⟩ (.returned sum) := by
  have htest : (program n).Reaches 1 ⟨[0],locals,3⟩ ⟨[0, 0],locals,4⟩ :=
    Program.reaches_next rfl (.load h.slot_zero h.counter_eq)
  have hout : (program n).Reaches 1 ⟨[0, 0],locals,4⟩ ⟨[],locals,15⟩ :=
    Program.reaches_jump rfl (.goTo (.equal rfl) rfl)
  have hload : (program n).Reaches 1 ⟨[],locals,15⟩ ⟨[sum],locals,16⟩ :=
    Program.reaches_next rfl (.load h.slot_one h.sum_eq)
  exact ((htest.trans hout).trans hload).comesTo (Program.comesTo_of_steps rfl (.return rfl))

/-! ### All turns -/

lemma ofNat_ne_zero {k : Nat} (hpos : 0 < k) (hk : k < Int32.size) : Int32.ofNat k ≠ 0 := by
  intro h
  have hmod := Text.ofInt_modEq k
  rw [Int32.ofInt_eq_ofNat, h] at hmod
  change (0 : Int) % 4294967296 = k % 4294967296 at hmod
  change k < 4294967296 at hk
  omega

lemma triangle_succ (k : Nat) : (k + 1) * (k + 1 + 1) / 2 = k * (k + 1) / 2 + (k + 1) := by
  have h : (k + 1) * (k + 1 + 1) = k * (k + 1) + 2 * (k + 1) := by ring
  rw [h, Nat.add_mul_div_left _ _ (by decide)]

/-- From a counter of `k` it takes `k` turns, in which all numbers up to `k` are added. -/
theorem comesTo_loop {k : Nat} (hk : k < Int32.size) (h : Counts (Int32.ofNat k) sum locals) :
    (program n).ComesTo (12 * k + 4) ⟨[0],locals,3⟩ (.returned (sum + Int32.ofNat (k * (k + 1) / 2))) := by
  induction k generalizing sum locals with
  | zero =>
    have hsum : sum + Int32.ofNat (0 * (0 + 1) / 2) = sum := Int32.add_zero sum
    rw [hsum]
    exact leaves h
  | succ k ih =>
    obtain ⟨locals',hcounts,hturn⟩ := turn (n := n) h (ofNat_ne_zero k.succ_pos hk)
    have hcounter : Int32.ofNat (k + 1) - 1 = Int32.ofNat k := by
      rw [Int32.ofNat_add]
      exact Int32.add_sub_cancel _ _
    rw [hcounter] at hcounts
    have hrest := hturn.comesTo (ih (Nat.lt_of_succ_lt hk) hcounts)
    have hsum : Int32.ofNat (k + 1) + sum + Int32.ofNat (k * (k + 1) / 2) =
        sum + Int32.ofNat ((k + 1) * (k + 1 + 1) / 2) := by
      rw [triangle_succ, Int32.ofNat_add (k * (k + 1) / 2), Int32.add_comm (Int32.ofNat (k + 1)) sum,
        Int32.add_assoc, Int32.add_comm (Int32.ofNat (k + 1))]
    have hrounds : 12 + (12 * k + 4) = 12 * (k + 1) + 4 := by omega
    rwa [hsum, hrounds] at hrest

/-! ### From the start -/

lemma counts_new {capacity : Nat} (h : 2 ≤ capacity) : Counts 0 0 (Frame.new capacity).locals where
  counter_eq := by
    rw [Frame.new, Array.getElem?_replicate, if_pos (by omega)]
  sum_eq := by
    rw [Frame.new, Array.getElem?_replicate, if_pos (by omega)]

lemma status_run {k capacity budget : Nat} (hk : k < Int32.size) (hcapacity : 2 ≤ capacity)
    (hbudget : 12 * k + 7 ≤ budget) :
    ((program (Int32.ofNat k)).run budget capacity).status = .returned (Int32.ofNat (k * (k + 1) / 2)) := by
  have hnew := counts_new hcapacity
  have hsetup : (program (Int32.ofNat k)).Reaches 3 (Frame.new capacity) _ :=
    (passes_setup hnew _).reaches (holds_program (Int32.ofNat k)).1
  have h := hsetup.comesTo (comesTo_loop hk (hnew.setCounter _))
  rw [Int32.zero_add] at h
  exact h.status_run (by simp) (by omega)

example : ((program 5).run 66 10).status = .running ∧ ((program 5).run 67 10).status = .returned 15 := by
  decide +kernel

/-- Every word is a number without a sign, up to multiples of the number of words. -/
lemma exists_ofNat (n : Word) : ∃ k < Int32.size, Int32.ofNat k = n := by
  have hpos : (0 : Int) < Int32.size := by decide
  refine ⟨(n.toInt % Int32.size).toNat,?_,?_⟩
  · have hlt := Int.emod_lt_of_pos n.toInt hpos
    omega
  · rw [← Int32.ofInt_eq_ofNat, Int.toNat_of_nonneg (Int.emod_nonneg _ hpos.ne'), ← Int32.toInt_inj,
      Int32.toInt_ofInt, Int.emod_bmod, ← Int32.toInt_ofInt, Int32.ofInt_toInt]

/-- From every start the loop ends, and what it returns is the sum of all numbers up to the start, which is
taken without its sign; both are meant up to multiples of the number of words. -/
theorem runLines_returns (n : Word) {capacity : Nat} (h : 2 ≤ capacity) :
    ∃ N : Nat, N < Int32.size ∧ Int.ModEq Int32.size N n.toInt ∧
      ∃ v : Word, Int.ModEq Int32.size v.toInt (N * (N + 1) / 2 : Nat) ∧
        ∀ budget ≥ 12 * N + 7, Program.runLines (lines n) budget capacity = some (.ok (some v)) := by
  obtain ⟨k,hk,rfl⟩ := exists_ofNat n
  have hmod (m : Nat) : Int.ModEq Int32.size (Int32.ofNat m).toInt m :=
    Int32.ofInt_eq_ofNat ▸ Text.ofInt_modEq m
  refine ⟨k,hk,(hmod k).symm,_,hmod _,?_⟩
  intro budget hbudget
  rw [Program.runLines, decode_lines]
  simp only [status_run hk h hbudget, Status.outcome?]

/-- The start that takes longest, with no local to spare. -/
theorem runLines_returns_minus_one :
    2 ≤ 2 ∧ ∃ budget, Program.runLines (lines (-1)) budget 2 = some (.ok (some (-2147483648))) := by
  obtain ⟨N,hlt,hN,v,hv,hrun⟩ := runLines_returns (-1) (Nat.le_refl 2)
  have hmax : N = 4294967295 := by
    change N < 4294967296 at hlt
    change (N : Int) % 4294967296 = -1 % 4294967296 at hN
    omega
  have hleast : v = -2147483648 := by
    have hin := Text.inWord_toInt v
    unfold Text.InWord at hin
    subst hmax
    change v.toInt % 4294967296 = 9223372034707292160 % 4294967296 at hv
    apply Int32.toInt_inj.mp
    change v.toInt = -2147483648
    omega
  exact ⟨Nat.le_refl 2,_,hleast ▸ hrun _ (Nat.le_refl _)⟩

end StackMachine.Countdown
