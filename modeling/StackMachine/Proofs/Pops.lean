import Mathlib.Algebra.GroupWithZero.Nat
import StackMachine.Proofs.Step

/-! Taking several values off the stack at once. The outcome is that of taking them one after the other, in any
number of goes, and pushing them back undoes it. A frame that has too few of them gives none. -/
namespace StackMachine.Frame

/-- The stack in the order in which it grew. -/
def bottomFirst (f : Frame) : List Word := f.stack.reverse

/-- Taking the values `vs` off one at a time, the topmost first, leads from the first frame to the second. -/
inductive Pops : Frame → List Word → Frame → Prop
  | done (f : Frame) : Pops f [] f
  | pop {f g : Frame} {vs : List Word} (v : Word) (more : Pops f vs g) : Pops (f.push v) (v :: vs) g

/-- Take values off in several goes, as many in each as the list says. -/
def popAll (f : Frame) : List Nat → Except Fault (List Word × Frame)
  | [] => .ok ([], f)
  | n :: ns =>
    match f.popN n with
    | .error e => .error e
    | .ok (vs, g) =>
      match g.popAll ns with
      | .error e => .error e
      | .ok (ws, g') => .ok (vs ++ ws, g')

variable {f g g' : Frame} {n m : Nat} {vs ws : List Word}

lemma pops_append_self (g : Frame) (vs : List Word) : Pops { g with stack := vs ++ g.stack } vs g := by
  induction vs with
  | nil => exact .done g
  | cons v vs ih => exact .pop v ih

lemma pops_iff : Pops f vs g ↔ f = { g with stack := vs ++ g.stack } := by
  constructor
  · intro h
    induction h with
    | done => rfl
    | pop v _ ih => rw [ih]; rfl
  · rintro rfl
    exact pops_append_self g vs

namespace Pops

lemma depth_eq (h : Pops f vs g) : f.depth = vs.length + g.depth := by
  rw [pops_iff.mp h]
  exact List.length_append

lemma locals_eq (h : Pops f vs g) : g.locals = f.locals := by rw [pops_iff.mp h]

lemma ip_eq (h : Pops f vs g) : g.ip = f.ip := by rw [pops_iff.mp h]

/-- What is left lies under what was taken. -/
lemma bottomFirst_eq (h : Pops f vs g) : g.bottomFirst ++ vs.reverse = f.bottomFirst := by
  rw [pops_iff.mp h, bottomFirst, bottomFirst, List.reverse_append]

/-- The values come in the order from the top down. -/
lemma getElem?_eq (h : Pops f vs g) {k : Nat} (hk : k < vs.length) :
    vs[k]? = f.bottomFirst[f.depth - 1 - k]? := by
  have hdepth := h.depth_eq
  have hlt : f.depth - 1 - k < f.stack.length := by
    rw [depth] at hdepth ⊢
    omega
  have hstack : f.stack = vs ++ g.stack := by rw [pops_iff.mp h]
  rw [bottomFirst, List.getElem?_reverse hlt, ← depth, hstack, List.getElem?_append_left (by omega)]
  congr 1
  omega

/-- The value that was taken last is the first to go back. -/
lemma foldl_push (h : Pops f vs g) : vs.reverse.foldl push g = f := by
  induction h with
  | done => rfl
  | pop v _ ih => rw [List.reverse_cons, List.foldl_append, ih]; rfl

/-- One go and then another. -/
lemma append (h : Pops f vs g) (h' : Pops g ws g') : Pops f (vs ++ ws) g' := by
  induction h with
  | done => exact h'
  | pop v _ ih => exact .pop v (ih h')

end Pops

/-! ### Several values at once -/

theorem popN_eq_error_iff {e : Fault} :
    f.popN n = .error e ↔ f.depth < n ∧ e = .stackUnderflow n f.depth f.ip := by
  by_cases few : f.depth < n
  · simp [popN_of_lt few, few, underflow, eq_comm]
  · simp [popN_of_le (Nat.not_lt.mp few), few]

lemma le_depth_of_popN (h : f.popN n = .ok (vs, g)) : n ≤ f.depth := by
  rw [← Nat.not_lt]
  intro few
  rw [popN_eq_error_iff.mpr ⟨few,rfl⟩] at h
  cases h

/-- What comes of taking `n` values at once is what comes of taking one value `n` times. -/
theorem popN_eq_ok_iff : f.popN n = .ok (vs, g) ↔ vs.length = n ∧ Pops f vs g := by
  constructor
  · intro h
    have enough := le_depth_of_popN h
    rw [popN_of_le enough] at h
    cases h
    refine ⟨List.length_take_of_le enough,pops_iff.mpr ?_⟩
    rw [List.take_append_drop]
  · rintro ⟨rfl,h⟩
    rw [popN_of_le (by rw [h.depth_eq]; omega), pops_iff.mp h, List.take_left, List.drop_left]

theorem exists_popN_iff : (∃ vs g, f.popN n = .ok (vs, g)) ↔ n ≤ f.depth := by
  constructor
  · rintro ⟨vs,g,h⟩
    exact le_depth_of_popN h
  · intro enough
    exact ⟨_,_,popN_of_le enough⟩

/-- Two goes, one after the other, are as good as one. -/
lemma popN_append (h : f.popN n = .ok (vs, g)) (h' : g.popN m = .ok (ws, g')) :
    f.popN (n + m) = .ok (vs ++ ws, g') := by
  obtain ⟨rfl,hfirst⟩ := popN_eq_ok_iff.mp h
  obtain ⟨rfl,hrest⟩ := popN_eq_ok_iff.mp h'
  exact popN_eq_ok_iff.mpr ⟨List.length_append,hfirst.append hrest⟩

/-- What one go leaves of a larger number is what a second go takes. -/
theorem popN_add_iff (h : f.popN n = .ok (vs, g)) {us : List Word} :
    f.popN (n + m) = .ok (us, g') ↔ ∃ ws, us = vs ++ ws ∧ g.popN m = .ok (ws, g') := by
  constructor
  · intro hall
    have enough : m ≤ g.depth := by
      have hdepth := le_depth_of_popN hall
      obtain ⟨rfl,hfirst⟩ := popN_eq_ok_iff.mp h
      rw [hfirst.depth_eq] at hdepth
      omega
    obtain ⟨ws,g₁,hrest⟩ := exists_popN_iff.mpr enough
    have htogether := popN_append h hrest
    rw [hall] at htogether
    cases htogether
    exact ⟨ws,rfl,hrest⟩
  · rintro ⟨ws,rfl,hrest⟩
    exact popN_append h hrest

/-- It does not matter in how many goes the values are taken. -/
theorem popAll_eq_ok_iff {ns : List Nat} : f.popAll ns = .ok (vs, g) ↔ f.popN ns.sum = .ok (vs, g) := by
  induction ns generalizing f vs with
  | nil =>
    rw [List.sum_nil, popN_of_le (Nat.zero_le _)]
    rfl
  | cons n ns ih =>
    rw [List.sum_cons, popAll]
    cases hfirst : f.popN n with
    | error e =>
      -- Too few for the first go are too few for all of them.
      obtain ⟨few,-⟩ := popN_eq_error_iff.mp hfirst
      have hall : f.popN (n + ns.sum) = .error (.stackUnderflow (n + ns.sum) f.depth f.ip) :=
        popN_eq_error_iff.mpr ⟨by omega,rfl⟩
      rw [hall]
      constructor <;> rintro ⟨⟩
    | ok r =>
      obtain ⟨us,g₁⟩ := r
      rw [popN_add_iff hfirst]
      simp only [← ih]
      cases hrest : g₁.popAll ns with
      | error e => simp
      | ok r =>
        obtain ⟨ws,g'⟩ := r
        constructor
        · rintro ⟨⟩
          exact ⟨ws,rfl,rfl⟩
        · rintro ⟨_,rfl,⟨⟩⟩
          rfl

/-! ### Operands -/

/-- An instruction that lacks operands fails as taking them does, and leaves the frame alone. -/
lemma step_of_popN_error {length : Nat} {i : Instruction} {e : Fault}
    (h : f.popN i.opcode.stackInputs = .error e) : step length i f = (f, .error e) := by
  obtain ⟨few,rfl⟩ := popN_eq_error_iff.mp h
  exact step_of_depth_lt few

/-- Arithmetic is on the two values that are taken at once, the one from the top first. -/
lemma step_of_popN_two {length : Nat} {i : Instruction} {op : Word → Word → Word} {a b : Word}
    (operation : i.arithmetic? = some op) (h : f.popN 2 = .ok ([a, b], g)) :
    step length i f = (g.push (op a b), .ok .next) := by
  have hstack : f = { g with stack := [a,b] ++ g.stack } := pops_iff.mp (popN_eq_ok_iff.mp h).2
  have hi : [a,b].length = i.opcode.stackInputs := by cases i <;> cases operation <;> rfl
  rw [step_arithmetic operation (congrArg stack hstack), consume_eq i [a,b] (congrArg stack hstack) hi, hstack]

/-- Taking `n` values off at once fails if there are fewer, and leaves them there. Otherwise it gives what taking
one value `n` times gives, in however many goes, and pushing the values back, the last one first, undoes it. -/
theorem popN_repeats_pop (f : Frame) (n : Nat) :
    (∀ e, f.popN n = .error e ↔ f.depth < n ∧ e = .stackUnderflow n f.depth f.ip) ∧
    (∀ e length i, f.popN n = .error e → i.opcode.stackInputs = n → step length i f = (f, .error e)) ∧
    (∀ ns vs g, ns.sum = n → (f.popAll ns = .ok (vs, g) ↔ f.popN n = .ok (vs, g))) ∧
    (n ≤ f.depth → ∃ vs g, f.popN n = .ok (vs, g) ∧
      vs.length = n ∧ Pops f vs g ∧
      (∀ k < n, vs[k]? = f.bottomFirst[f.depth - 1 - k]?) ∧
      g.bottomFirst ++ vs.reverse = f.bottomFirst ∧ g.locals = f.locals ∧ g.ip = f.ip ∧
      (∀ m us g', f.popN (n + m) = .ok (us, g') ↔ ∃ ws, us = vs ++ ws ∧ g.popN m = .ok (ws, g')) ∧
      vs.reverse.foldl push g = f ∧
      ∀ length i op a b, i.arithmetic? = some op → vs = [a, b] →
        step length i f = (g.push (op a b), .ok .next)) := by
  refine ⟨fun e => popN_eq_error_iff,?_,?_,?_⟩
  · rintro e length i he rfl
    exact step_of_popN_error he
  · rintro ns vs g rfl
    exact popAll_eq_ok_iff
  · intro enough
    obtain ⟨vs,g,h⟩ := exists_popN_iff.mpr enough
    obtain ⟨hlength,hpops⟩ := popN_eq_ok_iff.mp h
    refine ⟨vs,g,h,hlength,hpops,?_,hpops.bottomFirst_eq,hpops.locals_eq,hpops.ip_eq,?_,hpops.foldl_push,?_⟩
    · intro k hk
      exact hpops.getElem?_eq (hlength ▸ hk)
    · intro m us g'
      exact popN_add_iff h
    · rintro length i op a b operation rfl
      obtain rfl : 2 = n := hlength
      exact step_of_popN_two operation h

/-- One value is too few for a subtraction, which leaves it there. Of three values the two on top are taken in
one go or in two, are subtracted in this order, and go back to where they were. -/
theorem popN_repeats_pop_subtract :
    (popN ⟨[9], #[0], 4⟩ 2 = .error (.stackUnderflow 2 1 4) ∧
      step 7 .subtract ⟨[9], #[0], 4⟩ = (⟨[9], #[0], 4⟩, .error (.stackUnderflow 2 1 4))) ∧
    popAll ⟨[1, 3, 5], #[0], 4⟩ [1, 1] = .ok ([1, 3], ⟨[5], #[0], 4⟩) ∧
    step 7 .subtract ⟨[1, 3, 5], #[0], 4⟩ = (⟨[-2, 5], #[0], 4⟩, .ok .next) ∧
    [1, 3].reverse.foldl push ⟨[5], #[0], 4⟩ = ⟨[1, 3, 5], #[0], 4⟩ := by
  constructor
  · obtain ⟨hfew,hstep,_⟩ := popN_repeats_pop ⟨[9], #[0], 4⟩ 2
    have hpop := (hfew (.stackUnderflow 2 1 4)).mpr ⟨by decide,rfl⟩
    exact ⟨hpop,hstep _ 7 .subtract hpop rfl⟩
  · obtain ⟨_,_,hgoes,henough⟩ := popN_repeats_pop ⟨[1, 3, 5], #[0], 4⟩ 2
    obtain ⟨vs,g,hpop,_,_,_,_,_,_,_,hback,harithmetic⟩ := henough (by decide)
    obtain ⟨rfl,rfl⟩ := Prod.mk.inj (Except.ok.inj hpop)
    exact ⟨(hgoes [1, 1] _ _ rfl).mpr rfl,harithmetic 7 .subtract _ 1 3 rfl rfl,hback⟩

end StackMachine.Frame
