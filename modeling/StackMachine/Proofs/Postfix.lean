import Mathlib.Data.Nat.Find
import StackMachine.Proofs.Execution
import StackMachine.Proofs.Numeral

/-! Arithmetic expressions in postfix form. The code of an expression puts its value on the stack and leaves
everything else alone, wherever it stands in a program; an expression that divides with a zero fails at the
first division that does so. -/
namespace StackMachine

inductive Operator
  | add
  | subtract
  | multiply
  | divide
  deriving DecidableEq

namespace Operator

def instruction : Operator → Instruction
  | .add => .add
  | .subtract => .subtract
  | .multiply => .multiply
  | .divide => .divide

/-- The operation on integers without bounds; division goes toward zero. -/
def exact : Operator → Int → Int → Int
  | .add, a, b => a + b
  | .subtract, a, b => a - b
  | .multiply, a, b => a * b
  | .divide, a, b => a.tdiv b

/-- The operation on words: the exact result is wrapped, and no division takes a zero. -/
def result? (op : Operator) (a b : Word) : Option Word :=
  if op = .divide ∧ (a = 0 ∨ b = 0) then none else some (Int32.ofInt (op.exact a.toInt b.toInt))

variable {op : Operator} {a b v : Word}

lemma result?_eq_some_iff : op.result? a b = some v ↔
    ¬ (op = .divide ∧ (a = 0 ∨ b = 0)) ∧ Int32.ofInt (op.exact a.toInt b.toInt) = v := by
  unfold result?
  split
  next h => simp [h]
  next h => simp [h]

lemma result?_eq_none_iff : op.result? a b = none ↔ op = .divide ∧ (a = 0 ∨ b = 0) := by
  unfold result?
  split
  next h => simp [h]
  next h => simp [h]

/-- Words are divided by dividing the integers that they stand for. -/
lemma ofInt_tdiv (a b : Word) : Int32.ofInt (a.toInt.tdiv b.toInt) = a / b := by
  rw [← Int32.toInt_inj, Int32.toInt_div, Int32.toInt_ofInt]

variable {length ip : Nat} {stack : List Word} {locals : Array Word}

/-- The instruction of an operation computes it on the two values on top. -/
lemma steps (h : op.result? a b = some v) :
    Steps length ⟨a :: b :: stack,locals,ip⟩ op.instruction ⟨v :: stack,locals,ip⟩ (.ok .next) := by
  obtain ⟨hzero,rfl⟩ := result?_eq_some_iff.mp h
  cases op with
  | add =>
    rw [exact, Int32.ofInt_add, a.ofInt_toInt, b.ofInt_toInt]
    exact .arithmetic rfl rfl
  | subtract =>
    rw [exact, Int32.ofInt_sub, a.ofInt_toInt, b.ofInt_toInt]
    exact .arithmetic rfl rfl
  | multiply =>
    rw [exact, Int32.ofInt_mul, a.ofInt_toInt, b.ofInt_toInt]
    exact .arithmetic rfl rfl
  | divide =>
    have hne : ¬ (a = 0 ∨ b = 0) := fun h => hzero ⟨rfl,h⟩
    rw [not_or] at hne
    rw [exact, ofInt_tdiv]
    exact .divide rfl hne.1 hne.2

end Operator

inductive Expression
  | constant (v : Word)
  | binary (op : Operator) (left right : Expression)

namespace Expression

/-- The value in words, if no division in the expression takes a zero. -/
def value? : Expression → Option Word
  | .constant v => some v
  | .binary op left right => left.value?.bind fun a => right.value?.bind fun b => op.result? a b

/-- The value in integers without bounds. -/
def exact : Expression → Int
  | .constant v => v.toInt
  | .binary op left right => op.exact left.exact right.exact

def DivisionFree : Expression → Prop
  | .constant _ => True
  | .binary op left right => op ≠ .divide ∧ left.DivisionFree ∧ right.DivisionFree

/-- The right operand comes first, since the left one is taken from the top of the stack. -/
def code : Expression → List Instruction
  | .constant v => [.pushConstant v]
  | .binary op left right => right.code ++ left.code ++ [op.instruction]

/-- Compute the expression and return its value. -/
def program (t : Expression) : Program := .ofList (t.code ++ [.return])

/-- The instruction at the index `k` in the code is a division one of whose operands is zero. -/
inductive MeetsZero : Expression → Nat → Prop
  | here {left right : Expression} (zero : left.value? = some 0 ∨ right.value? = some 0) :
      MeetsZero (.binary .divide left right) (right.code.length + left.code.length)
  | inRight {op : Operator} {left right : Expression} {k : Nat} (meets : MeetsZero right k) :
      MeetsZero (.binary op left right) k
  | inLeft {op : Operator} {left right : Expression} {k : Nat} (meets : MeetsZero left k) :
      MeetsZero (.binary op left right) (right.code.length + k)

/-- The first division in the code that takes a zero stands at `k`. -/
def FirstZero (t : Expression) (k : Nat) : Prop := t.MeetsZero k ∧ ∀ j < k, ¬ t.MeetsZero j

/-! ### Values -/

variable {t : Expression} {v : Word} {k : Nat}

lemma value?_binary_eq_some_iff {op : Operator} {left right : Expression} :
    (binary op left right).value? = some v ↔
      ∃ a b, left.value? = some a ∧ right.value? = some b ∧ op.result? a b = some v := by
  simp only [value?, Option.bind_eq_some_iff]
  constructor
  · rintro ⟨a,ha,b,hb,h⟩
    exact ⟨a,b,ha,hb,h⟩
  · rintro ⟨a,b,ha,hb,h⟩
    exact ⟨a,ha,b,hb,h⟩

/-- An expression in which no division takes a zero has a value. -/
lemma exists_value?_of_not_meetsZero (h : ∀ k, ¬ t.MeetsZero k) : ∃ v, t.value? = some v := by
  induction t with
  | constant v => exact ⟨v,rfl⟩
  | binary op left right ihl ihr =>
    obtain ⟨b,hb⟩ := ihr fun k hk => h k (.inRight hk)
    obtain ⟨a,ha⟩ := ihl fun k hk => h _ (.inLeft hk)
    cases hresult : op.result? a b with
    | some v => exact ⟨v,value?_binary_eq_some_iff.mpr ⟨a,b,ha,hb,hresult⟩⟩
    | none =>
      obtain ⟨rfl,hzero⟩ := Operator.result?_eq_none_iff.mp hresult
      refine absurd (MeetsZero.here ?_) (h _)
      rw [ha, hb, Option.some.injEq, Option.some.injEq]
      exact hzero

/-- Wrapping is compatible with the operations, so it may as well be done once, at the end. -/
lemma DivisionFree.value?_eq (h : t.DivisionFree) : t.value? = some (Int32.ofInt t.exact) := by
  induction t with
  | constant v => rw [value?, exact, v.ofInt_toInt]
  | binary op left right ihl ihr =>
    obtain ⟨hop,hl,hr⟩ := h
    rw [value?_binary_eq_some_iff]
    refine ⟨_,_,ihl hl,ihr hr,?_⟩
    rw [Operator.result?_eq_some_iff]
    refine ⟨fun hd => hop hd.1,?_⟩
    cases op with
    | add => simp only [Operator.exact, exact, Int32.ofInt_add, Int32.ofInt_toInt]
    | subtract => simp only [Operator.exact, exact, Int32.ofInt_sub, Int32.ofInt_toInt]
    | multiply => simp only [Operator.exact, exact, Int32.ofInt_mul, Int32.ofInt_toInt]
    | divide => exact absurd rfl hop

/-! ### Positions -/

/-- What takes a zero is a division. -/
lemma MeetsZero.getElem?_code (h : t.MeetsZero k) : t.code[k]? = some .divide := by
  induction h with
  | here =>
    rw [code, ← List.length_append, List.getElem?_concat_length]
    rfl
  | @inRight op left right k _ ih =>
    have hk := (List.getElem?_eq_some_iff.mp ih).1
    rw [code, List.append_assoc, List.getElem?_append_left hk, ih]
  | @inLeft op left right k _ ih =>
    have hk := (List.getElem?_eq_some_iff.mp ih).1
    rw [code, List.append_assoc, List.getElem?_append_right (Nat.le_add_right _ _), Nat.add_sub_cancel_left,
      List.getElem?_append_left hk, ih]

lemma MeetsZero.lt_length (h : t.MeetsZero k) : k < t.code.length :=
  (List.getElem?_eq_some_iff.mp h.getElem?_code).1

/-! ### Execution -/

variable {p : Program} {op : Operator} {left right : Expression}

lemma holds_binary (hp : p.Holds k (binary op left right).code) :
    p.Holds k right.code ∧ p.Holds (k + right.code.length) left.code ∧
      p.get? (k + right.code.length + left.code.length) = some op.instruction := by
  have hlast := hp.append_right.get?_eq
  rw [List.length_append, ← Nat.add_assoc] at hlast
  exact ⟨hp.append_left.append_left,hp.append_left.append_right,hlast⟩

/-- The code of an expression puts its value on the stack. -/
theorem reaches_code (hp : p.Holds k t.code) (hv : t.value? = some v) (stack : List Word)
    (locals : Array Word) :
    p.Reaches t.code.length ⟨stack,locals,k⟩ ⟨v :: stack,locals,k + t.code.length⟩ := by
  induction t generalizing k v stack with
  | constant w =>
    obtain rfl := Option.some.inj hv
    exact Program.reaches_next hp.get?_eq (.push w)
  | binary op left right ihl ihr =>
    obtain ⟨a,b,ha,hb,hresult⟩ := value?_binary_eq_some_iff.mp hv
    obtain ⟨hright,hleft,hop⟩ := holds_binary hp
    have hlast : p.Reaches 1 ⟨a :: b :: stack,locals,k + right.code.length + left.code.length⟩ _ :=
      Program.reaches_next hop (op.steps hresult)
    have hlength : (binary op left right).code.length = right.code.length + left.code.length + 1 := by
      simp only [code, List.length_append, List.length_singleton]
    rw [hlength, ← Nat.add_assoc, ← Nat.add_assoc]
    exact ((ihr hright hb stack).trans (ihl hleft ha (b :: stack))).trans hlast

/-- The operands whose code has been passed without a zero have values. -/
lemma exists_value?_right {j : Nat} (hfirst : ∀ i < j, ¬ (binary op left right).MeetsZero i)
    (hj : right.code.length ≤ j) : ∃ b, right.value? = some b := by
  apply exists_value?_of_not_meetsZero
  intro i h
  exact hfirst i (Nat.lt_of_lt_of_le h.lt_length hj) (.inRight h)

lemma exists_value?_left {j : Nat} (hfirst : ∀ i < j, ¬ (binary op left right).MeetsZero i)
    (hj : right.code.length + left.code.length ≤ j) : ∃ a, left.value? = some a := by
  apply exists_value?_of_not_meetsZero
  intro i h
  have hi := h.lt_length
  exact hfirst _ (by omega) (.inLeft h)

/-- The first division that takes a zero is reached and fails. -/
theorem comesTo_of_firstZero {j : Nat} (hp : p.Holds k t.code) (hj : t.FirstZero j) (stack : List Word)
    (locals : Array Word) :
    p.ComesTo (j + 1) ⟨stack,locals,k⟩ (.failed (.divisionByZero (k + j))) := by
  induction t generalizing k j stack with
  | constant w => cases hj.1
  | binary op left right ihl ihr =>
    obtain ⟨hright,hleft,hop⟩ := holds_binary hp
    obtain ⟨hmeets,hfirst⟩ := hj
    cases hmeets with
    | inRight meets => exact ihr hright ⟨meets,fun i hi h => hfirst i hi (.inRight h)⟩ stack
    | @inLeft _ _ _ j meets =>
      obtain ⟨b,hb⟩ := exists_value?_right hfirst (Nat.le_add_right _ _)
      have hleftFirst : left.FirstZero j := ⟨meets,fun i hi h => hfirst _ (by omega) (.inLeft h)⟩
      have h := (reaches_code hright hb stack locals).comesTo (ihl hleft hleftFirst (b :: stack))
      rwa [Nat.add_assoc k, ← Nat.add_assoc right.code.length] at h
    | here zero =>
      obtain ⟨b,hb⟩ := exists_value?_right hfirst (Nat.le_add_right _ _)
      obtain ⟨a,ha⟩ := exists_value?_left hfirst (Nat.le_refl _)
      rw [ha, hb, Option.some.injEq, Option.some.injEq] at zero
      have hoperands := (reaches_code hright hb stack locals).trans
        (reaches_code hleft ha (b :: stack) locals)
      have h := hoperands.comesTo (Program.comesTo_of_steps hop (.divideByZero rfl zero))
      rwa [Nat.add_assoc k] at h

/-! ### Whole programs -/

lemma holds_program (t : Expression) :
    t.program.Holds 0 t.code ∧ t.program.get? t.code.length = some .return := by
  have h := Program.holds_ofList (t.code ++ [.return])
  have hlast := h.append_right.get?_eq
  rw [Nat.zero_add] at hlast
  exact ⟨h.append_left,hlast⟩

lemma status_run_of_value? (hv : t.value? = some v) {n : Nat} (hn : t.code.length < n) (capacity : Nat) :
    (t.program.run n capacity).status = .returned v := by
  obtain ⟨hcode,hreturn⟩ := holds_program t
  have hreached := reaches_code hcode hv [] (Array.replicate capacity 0)
  rw [Nat.zero_add] at hreached
  have h := hreached.comesTo (Program.comesTo_of_steps hreturn (.return rfl))
  exact h.status_run (by simp [Status.after]) hn

lemma status_run_of_firstZero (hk : t.FirstZero k) {n : Nat} (hn : k < n) (capacity : Nat) :
    (t.program.run n capacity).status = .failed (.divisionByZero k) := by
  have h := comesTo_of_firstZero (holds_program t).1 hk [] (Array.replicate capacity 0)
  rw [Nat.zero_add] at h
  exact h.status_run (by simp) hn

lemma exists_firstZero (h : ∃ k, t.MeetsZero k) : ∃ k, t.FirstZero k := by
  classical
  exact ⟨Nat.find h,Nat.find_spec h,fun j hj => Nat.find_min h hj⟩

/-- The code of an expression, followed by a return, returns its value in words, unless some division takes
a zero; then the first one that does is where it fails. Without division the value is that of the
expression in integers, up to multiples of the number of words. -/
theorem run_program (t : Expression) (capacity : Nat) :
    ((∀ k, ¬ t.MeetsZero k) → ∃ v, t.value? = some v ∧
      ∀ n > t.code.length, (t.program.run n capacity).status = .returned v) ∧
    ((∃ k, t.MeetsZero k) → ∃ k, t.FirstZero k ∧ t.code[k]? = some .divide ∧
      ∀ n > k, (t.program.run n capacity).status = .failed (.divisionByZero k)) ∧
    (t.DivisionFree → ∃ v, Int.ModEq Int32.size v.toInt t.exact ∧
      ∀ n > t.code.length, (t.program.run n capacity).status = .returned v) ∧
    Operator.divide.result? Int32.minValue (-1) = some Int32.minValue := by
  refine ⟨?_,?_,?_,by decide⟩
  · intro h
    obtain ⟨v,hv⟩ := exists_value?_of_not_meetsZero h
    exact ⟨v,hv,fun n hn => status_run_of_value? hv hn capacity⟩
  · intro h
    obtain ⟨k,hk⟩ := exists_firstZero h
    exact ⟨k,hk,hk.1.getElem?_code,fun n hn => status_run_of_firstZero hk hn capacity⟩
  · intro h
    exact ⟨_,Text.ofInt_modEq t.exact,fun n hn => status_run_of_value? h.value?_eq hn capacity⟩

/-- The quotient of the least word and minus one wraps to the least word; a zero on the left of a division
is no better than one on the right; and a sum wraps. -/
theorem run_program_borders :
    (∃ v, (binary .divide (.constant Int32.minValue) (.constant (-1))).value? = some v ∧
      ∀ n > 3, ((binary .divide (.constant Int32.minValue) (.constant (-1))).program.run n 0).status =
        .returned v) ∧
    (∃ k, (binary .subtract (.constant 1) (.binary .divide (.constant 0) (.constant 5))).FirstZero k ∧
      ∀ n > k, ((binary .subtract (.constant 1)
        (.binary .divide (.constant 0) (.constant 5))).program.run n 0).status =
          .failed (.divisionByZero k)) ∧
    ∃ v : Word, Int.ModEq Int32.size v.toInt 2147483648 ∧
      ∀ n > 3, ((binary .add (.constant Int32.maxValue) (.constant 1)).program.run n 0).status =
        .returned v := by
  refine ⟨?_,?_,?_⟩
  · apply (run_program (binary .divide (.constant Int32.minValue) (.constant (-1))) 0).1
    intro k h
    cases h with
    | here zero => revert zero; decide
    | inRight meets => cases meets
    | inLeft meets => cases meets
  · obtain ⟨k,hk,_,hrun⟩ :=
      (run_program (binary .subtract (.constant 1) (.binary .divide (.constant 0) (.constant 5))) 0).2.1
        ⟨2,.inRight (.here (.inl rfl))⟩
    exact ⟨k,hk,hrun⟩
  · exact (run_program (binary .add (.constant Int32.maxValue) (.constant 1)) 0).2.2.1
      ⟨by decide,trivial,trivial⟩

end Expression
end StackMachine
