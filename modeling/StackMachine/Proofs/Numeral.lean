import Mathlib.Data.Int.ModEq
import Mathlib.Logic.ExistsUnique
import Mathlib.Tactic.Lemma
import StackMachine.Text.Decimal

/-! Decimal numerals as a language: at most one sign, then digits. What is written for an integer is a
numeral of its value, and a word is read from exactly the numerals whose value is in its range. Of any other
token, what is wrong first decides what is said: a character that is no digit, or digits that go too far. -/
namespace StackMachine.Text

/-- The number that digits come to when they are read onto `acc`. -/
def valueOnto (acc : Nat) (ds : List Char) : Nat := ds.foldl (fun n c => n * 10 + digitValue c) acc

/-- A non-empty run of decimal digits. -/
structure Digits (ds : List Char) : Prop where
  nonempty : ds ≠ []
  all : ∀ c ∈ ds, isDigit c = true

/-- A decimal integer with its value. -/
inductive Numeral : List Char → Int → Prop
  | plain {ds : List Char} (digits : Digits ds) : Numeral ds (valueOnto 0 ds)
  | plus {ds : List Char} (digits : Digits ds) : Numeral ('+' :: ds) (valueOnto 0 ds)
  | minus {ds : List Char} (digits : Digits ds) : Numeral ('-' :: ds) (-valueOnto 0 ds)

/-- The integers that are words. -/
def InWord (v : Int) : Prop := -0x80000000 ≤ v ∧ v < 0x80000000

@[simp] theorem valueOnto_nil (acc : Nat) : valueOnto acc [] = acc := rfl

@[simp] theorem valueOnto_cons (acc : Nat) (c : Char) (ds : List Char) :
    valueOnto acc (c :: ds) = valueOnto (acc * 10 + digitValue c) ds := by
  simp only [valueOnto, List.foldl_cons]

lemma valueOnto_concat (acc : Nat) (ds : List Char) (c : Char) :
    valueOnto acc (ds ++ [c]) = valueOnto acc ds * 10 + digitValue c := by
  simp [valueOnto]

/-- Digits that follow never make a number smaller. -/
lemma le_valueOnto (acc : Nat) (ds : List Char) : acc ≤ valueOnto acc ds := by
  induction ds generalizing acc with
  | nil => exact Nat.le_refl acc
  | cons c ds ih =>
    have h := ih (acc * 10 + digitValue c)
    rw [valueOnto_cons]
    omega

/-! ### Writing -/

lemma isDigit_digitChar {d : Nat} (h : d < 10) : isDigit (digitChar d) = true := by
  decide +revert

lemma digitValue_digitChar {d : Nat} (h : d < 10) : digitValue (digitChar d) = d := by
  decide +revert

lemma digits_decimal (n : Nat) : Digits (decimal n) := by
  fun_induction decimal n with
  | case1 n h =>
    refine ⟨by simp,?_⟩
    intro c hc
    obtain rfl := List.mem_singleton.mp hc
    exact isDigit_digitChar h
  | case2 n h ih =>
    refine ⟨by simp,?_⟩
    intro c hc
    rw [List.mem_append, List.mem_singleton] at hc
    obtain hc | rfl := hc
    · exact ih.all c hc
    · exact isDigit_digitChar (Nat.mod_lt n (by decide))

lemma valueOnto_decimal (n : Nat) : valueOnto 0 (decimal n) = n := by
  fun_induction decimal n with
  | case1 n h => simp [digitValue_digitChar h]
  | case2 n h ih =>
    rw [valueOnto_concat, ih, digitValue_digitChar (Nat.mod_lt n (by decide))]
    omega

/-- What is written for an integer is a numeral of it. -/
theorem numeral_signedDecimal (i : Int) : Numeral (signedDecimal i) i := by
  have hdigits := digits_decimal i.natAbs
  have hvalue := valueOnto_decimal i.natAbs
  unfold signedDecimal
  split
  · have h := Numeral.minus hdigits
    rwa [hvalue, show -(i.natAbs : Int) = i by omega] at h
  · have h := Numeral.plain hdigits
    rwa [hvalue, show (i.natAbs : Int) = i by omega] at h

/-! ### Reading -/

/-- The bound is checked digit by digit, which is no different from checking it at the end. -/
lemma readDigits_eq_ok_iff {bound acc n : Nat} {overflow : NumeralError} {ds : List Char}
    (h : acc ≤ bound) :
    readDigits bound overflow acc ds = .ok n ↔
      (∀ c ∈ ds, isDigit c = true) ∧ valueOnto acc ds = n ∧ n ≤ bound := by
  induction ds generalizing acc with
  | nil =>
    simp only [readDigits, Except.ok.injEq, valueOnto_nil, List.not_mem_nil, false_implies,
      implies_true, true_and]
    constructor
    · rintro rfl
      exact ⟨rfl,h⟩
    · exact And.left
  | cons c ds ih =>
    rw [readDigits, List.forall_mem_cons, valueOnto_cons]
    by_cases hc : isDigit c = true
    · by_cases hb : bound < acc * 10 + digitValue c
      · have hle := le_valueOnto (acc * 10 + digitValue c) ds
        simp only [hc, hb, Bool.not_true, Bool.false_eq_true, if_false, if_true, reduceCtorEq, false_iff]
        omega
      · simp only [hc, hb, Bool.not_true, Bool.false_eq_true, if_false, true_and]
        exact ih (by omega)
    · simp [hc]

lemma readNumeral_eq_ok_iff {bound n : Nat} {overflow : NumeralError} {ds : List Char} :
    readNumeral bound overflow ds = .ok n ↔ Digits ds ∧ valueOnto 0 ds = n ∧ n ≤ bound := by
  cases ds with
  | nil =>
    simp only [readNumeral, reduceCtorEq, false_iff, not_and]
    intro h
    exact absurd rfl h.nonempty
  | cons c ds =>
    rw [readNumeral, readDigits_eq_ok_iff (Nat.zero_le bound)]
    · constructor
      · rintro ⟨hall,hn⟩
        exact ⟨⟨List.cons_ne_nil c ds,hall⟩,hn⟩
      · rintro ⟨hdigits,hn⟩
        exact ⟨hdigits.all,hn⟩
    · simp

lemma readNumeral_map_eq_ok_iff {bound : Nat} {overflow : NumeralError} {ds : List Char} {w : Word}
    {f : Nat → Word} :
    (readNumeral bound overflow ds).map f = .ok w ↔
      Digits ds ∧ valueOnto 0 ds ≤ bound ∧ f (valueOnto 0 ds) = w := by
  constructor
  · intro h
    cases hn : readNumeral bound overflow ds with
    | error e => simp [hn, Except.map] at h
    | ok n =>
      obtain ⟨hdigits,rfl,hle⟩ := readNumeral_eq_ok_iff.mp hn
      rw [hn] at h
      exact ⟨hdigits,hle,Except.ok.inj h⟩
  · rintro ⟨hdigits,hle,rfl⟩
    rw [readNumeral_eq_ok_iff.mpr ⟨hdigits,rfl,hle⟩]
    rfl

lemma Digits.head_ne {c : Char} {ds : List Char} (h : Digits (c :: ds)) : c ≠ '-' ∧ c ≠ '+' := by
  have hc := h.all c List.mem_cons_self
  constructor <;> rintro rfl <;> revert hc <;> decide

/-- A word is read from a numeral of an integer in its range, and from nothing else. -/
theorem readWord_eq_ok_iff {cs : List Char} {w : Word} :
    readWord cs = .ok w ↔ ∃ v, Numeral cs v ∧ InWord v ∧ Int32.ofInt v = w := by
  constructor
  · intro h
    unfold readWord at h
    split at h <;> obtain ⟨hdigits,hle,rfl⟩ := readNumeral_map_eq_ok_iff.mp h
    · exact ⟨_,.minus hdigits,by unfold InWord; omega,rfl⟩
    · exact ⟨_,.plus hdigits,by unfold InWord; omega,rfl⟩
    · exact ⟨_,.plain hdigits,by unfold InWord; omega,rfl⟩
  · rintro ⟨v,hv,hin,rfl⟩
    unfold InWord at hin
    cases hv with
    | plain digits =>
      unfold readWord
      split
      · exact absurd rfl digits.head_ne.1
      · exact absurd rfl digits.head_ne.2
      · exact readNumeral_map_eq_ok_iff.mpr ⟨digits,by omega,rfl⟩
    | plus digits => exact readNumeral_map_eq_ok_iff.mpr ⟨digits,by omega,rfl⟩
    | minus digits => exact readNumeral_map_eq_ok_iff.mpr ⟨digits,by omega,rfl⟩

lemma inWord_toInt (w : Word) : InWord w.toInt := by
  have hle := w.le_toInt
  have hlt := w.toInt_lt
  unfold InWord
  omega

/-- A word stands for the integer that it was made from, up to multiples of the number of words. -/
lemma ofInt_modEq (n : Int) : Int.ModEq Int32.size (Int32.ofInt n).toInt n := by
  rw [Int32.toInt_ofInt]
  exact Int.bmod_emod

lemma toInt_ofInt_of_inWord {v : Int} (h : InWord v) : (Int32.ofInt v).toInt = v :=
  Int32.toInt_ofInt_of_le h.1 h.2

/-! ### What is wrong with a token -/

/-- The token without the sign that it may begin with. -/
def unsigned : List Char → List Char
  | '-' :: cs => cs
  | '+' :: cs => cs
  | cs => cs

/-- The integer that the digits behind the sign come to. -/
def signedValue (cs : List Char) : Int :=
  if cs.head? = some '-' then -valueOnto 0 (unsigned cs) else valueOnto 0 (unsigned cs)

/-- Digits in front come to more than `bound` when they are read onto `acc`. -/
def Exceeds (bound acc : Nat) (cs : List Char) : Prop :=
  ∃ ds, ds <+: cs ∧ (∀ d ∈ ds, isDigit d = true) ∧ bound < valueOnto acc ds

/-- A character that is no digit is met before the digits come to more than `bound`. -/
def Spoiled (bound acc : Nat) (cs : List Char) : Prop :=
  ∃ ds c, ds ++ [c] <+: cs ∧ (∀ d ∈ ds, isDigit d = true) ∧ valueOnto acc ds ≤ bound ∧ isDigit c = false

/-- What is to be said of a token. There is one more integer below zero than above it, so the sign decides
how far the digits may go. -/
def Verdict (cs : List Char) : Except NumeralError Int → Prop
  | .ok v => Digits (unsigned cs) ∧ signedValue cs = v ∧ InWord v
  | .error .tooLarge => cs.head? ≠ some '-' ∧ Exceeds 0x7fffffff 0 (unsigned cs)
  | .error .tooSmall => cs.head? = some '-' ∧ Exceeds 0x80000000 0 (unsigned cs)
  | .error .invalidDigit => unsigned cs = [] ∨
      Spoiled (if cs.head? = some '-' then 0x80000000 else 0x7fffffff) 0 (unsigned cs)

section

variable {bound acc : Nat} {overflow e : NumeralError} {c : Char} {cs : List Char}

lemma exceeds_of_lt (h : bound < acc) (cs : List Char) : Exceeds bound acc cs :=
  ⟨[],by simp,by simp,h⟩

lemma not_exceeds_nil (h : acc ≤ bound) : ¬ Exceeds bound acc [] := by
  rintro ⟨ds,hds,_,hlt⟩
  rw [List.prefix_nil.mp hds, valueOnto_nil] at hlt
  omega

lemma exceeds_cons_iff (h : acc ≤ bound) : Exceeds bound acc (c :: cs) ↔
    isDigit c = true ∧ Exceeds bound (acc * 10 + digitValue c) cs := by
  constructor
  · rintro ⟨ds,hds,hall,hlt⟩
    cases ds with
    | nil =>
      -- No digits come to `acc` itself, which is within the bound.
      rw [valueOnto_nil] at hlt
      omega
    | cons d ds =>
      obtain ⟨rfl,htail⟩ := List.cons_prefix_cons.mp hds
      obtain ⟨hd,hrest⟩ := List.forall_mem_cons.mp hall
      exact ⟨hd,ds,htail,hrest,hlt⟩
  · rintro ⟨hc,ds,hds,hall,hlt⟩
    exact ⟨c :: ds,List.cons_prefix_cons.mpr ⟨rfl,hds⟩,List.forall_mem_cons.mpr ⟨hc,hall⟩,hlt⟩

lemma not_spoiled_of_lt (h : bound < acc) : ¬ Spoiled bound acc cs := by
  rintro ⟨ds,_,_,_,hle,_⟩
  have hge := le_valueOnto acc ds
  omega

lemma not_spoiled_nil : ¬ Spoiled bound acc [] := by
  rintro ⟨ds,c,hds,_⟩
  simp at hds

lemma spoiled_cons_iff (h : acc ≤ bound) : Spoiled bound acc (c :: cs) ↔
    isDigit c = false ∨ isDigit c = true ∧ Spoiled bound (acc * 10 + digitValue c) cs := by
  constructor
  · rintro ⟨ds,b,hds,hall,hle,hb⟩
    cases ds with
    | nil =>
      obtain ⟨rfl,_⟩ := List.cons_prefix_cons.mp hds
      exact .inl hb
    | cons d ds =>
      obtain ⟨rfl,htail⟩ := List.cons_prefix_cons.mp hds
      obtain ⟨hd,hrest⟩ := List.forall_mem_cons.mp hall
      exact .inr ⟨hd,ds,b,htail,hrest,hle,hb⟩
  · rintro (hc | ⟨hc,ds,b,hds,hall,hle,hb⟩)
    · exact ⟨[],c,by simp,by simp,h,hc⟩
    · exact ⟨c :: ds,b,List.cons_prefix_cons.mpr ⟨rfl,hds⟩,List.forall_mem_cons.mpr ⟨hc,hall⟩,hle,hb⟩

/-- Digit by digit, reading overflows exactly where the digits so far come to too much. -/
lemma readDigits_eq_overflow_iff (h : acc ≤ bound) (hne : overflow ≠ .invalidDigit) :
    readDigits bound overflow acc cs = .error overflow ↔ Exceeds bound acc cs := by
  induction cs generalizing acc with
  | nil =>
    simp only [readDigits, reduceCtorEq, false_iff]
    exact not_exceeds_nil h
  | cons c cs ih =>
    rw [readDigits, exceeds_cons_iff h]
    by_cases hc : isDigit c = true
    · by_cases hb : bound < acc * 10 + digitValue c
      · simp [hc, hb, exceeds_of_lt hb]
      · simp [hc, hb, ih (Nat.le_of_not_lt hb)]
    · simp [hc, hne.symm]

/-- At one and the same character a bad digit comes before the overflow, and an overflow before anything
behind it. -/
lemma readDigits_eq_invalidDigit_iff (h : acc ≤ bound) (hne : overflow ≠ .invalidDigit) :
    readDigits bound overflow acc cs = .error .invalidDigit ↔ Spoiled bound acc cs := by
  induction cs generalizing acc with
  | nil =>
    simp only [readDigits, reduceCtorEq, false_iff]
    exact not_spoiled_nil
  | cons c cs ih =>
    rw [readDigits, spoiled_cons_iff h]
    by_cases hc : isDigit c = true
    · by_cases hb : bound < acc * 10 + digitValue c
      · simp [hc, hb, hne, not_spoiled_of_lt hb]
      · simp [hc, hb, ih (Nat.le_of_not_lt hb)]
    · simp [hc]

lemma readDigits_error_cases (h : readDigits bound overflow acc cs = .error e) :
    e = overflow ∨ e = .invalidDigit := by
  fun_induction readDigits bound overflow acc cs with
  | case1 => cases h
  | case2 => exact .inr (Except.error.inj h).symm
  | case3 => exact .inl (Except.error.inj h).symm
  | case4 acc c cs _ _ ih => exact ih h

lemma readNumeral_eq_overflow_iff (hne : overflow ≠ .invalidDigit) :
    readNumeral bound overflow cs = .error overflow ↔ Exceeds bound 0 cs := by
  cases cs with
  | nil =>
    rw [readNumeral]
    exact iff_of_false (by simp [hne.symm]) (not_exceeds_nil (Nat.zero_le bound))
  | cons c cs =>
    rw [readNumeral, readDigits_eq_overflow_iff (Nat.zero_le bound) hne]
    simp

lemma readNumeral_eq_invalidDigit_iff (hne : overflow ≠ .invalidDigit) :
    readNumeral bound overflow cs = .error .invalidDigit ↔ cs = [] ∨ Spoiled bound 0 cs := by
  cases cs with
  | nil => simp [readNumeral]
  | cons c cs =>
    rw [readNumeral, readDigits_eq_invalidDigit_iff (Nat.zero_le bound) hne]
    · simp
    · simp

lemma readNumeral_error_cases (h : readNumeral bound overflow cs = .error e) :
    e = overflow ∨ e = .invalidDigit := by
  unfold readNumeral at h
  split at h
  · exact .inr (Except.error.inj h).symm
  · exact readDigits_error_cases h

end

lemma unsigned_of_digits {cs : List Char} (h : Digits cs) : unsigned cs = cs ∧ cs.head? ≠ some '-' := by
  obtain ⟨c,ds,rfl⟩ := List.exists_cons_of_ne_nil h.nonempty
  have hminus := h.head_ne.1
  have hplus := h.head_ne.2
  refine ⟨?_,fun hc => hminus (Option.some.inj hc)⟩
  rw [unsigned]
  · rintro _ heq
    exact hminus (List.cons.inj heq).1
  · rintro _ heq
    exact hplus (List.cons.inj heq).1

/-- A numeral is digits behind at most one sign. -/
lemma numeral_iff {cs : List Char} {v : Int} :
    Numeral cs v ↔ Digits (unsigned cs) ∧ signedValue cs = v := by
  have hplain : ∀ {ds : List Char}, Digits ds → signedValue ds = valueOnto 0 ds := by
    intro ds digits
    obtain ⟨hself,hsign⟩ := unsigned_of_digits digits
    rw [signedValue, if_neg hsign, hself]
  constructor
  · rintro (digits | digits | digits)
    · exact ⟨(unsigned_of_digits digits).1.symm ▸ digits,hplain digits⟩
    · exact ⟨digits,rfl⟩
    · exact ⟨digits,rfl⟩
  · rintro ⟨digits,rfl⟩
    unfold unsigned at digits
    split at digits
    next => exact .minus digits
    next => exact .plus digits
    next =>
      rw [hplain digits]
      exact .plain digits

/-- The sign decides how far the digits may go and what is said if they go further. -/
lemma readWord_of_minus {cs : List Char} (h : cs.head? = some '-') : readWord cs =
    (readNumeral 0x80000000 .tooSmall (unsigned cs)).map fun n : Nat => Int32.ofInt (-n) := by
  obtain ⟨ds,rfl⟩ := List.head?_eq_some_iff.mp h
  rfl

lemma readWord_of_not_minus {cs : List Char} (h : cs.head? ≠ some '-') : readWord cs =
    (readNumeral 0x7fffffff .tooLarge (unsigned cs)).map fun n : Nat => Int32.ofInt n := by
  unfold readWord
  split
  next => exact absurd rfl h
  next => rfl
  next hminus hplus => rw [unsigned] <;> assumption

lemma map_eq_error_iff {α β : Type} {f : α → β} {x : Except NumeralError α} {e : NumeralError} :
    x.map f = .error e ↔ x = .error e := by
  cases x <;> simp [Except.map]

lemma readWord_eq_error_iff {cs : List Char} {e : NumeralError} :
    readWord cs = .error e ↔ Verdict cs (.error e) := by
  by_cases h : cs.head? = some '-'
  · rw [readWord_of_minus h, map_eq_error_iff]
    cases e with
    | invalidDigit => rw [readNumeral_eq_invalidDigit_iff (by decide), Verdict, if_pos h]
    | tooSmall =>
      rw [readNumeral_eq_overflow_iff (by decide), Verdict]
      exact (and_iff_right h).symm
    | tooLarge =>
      refine iff_of_false (fun he => ?_) (fun hv => hv.1 h)
      obtain he | he := readNumeral_error_cases he <;> cases he
  · rw [readWord_of_not_minus h, map_eq_error_iff]
    cases e with
    | invalidDigit => rw [readNumeral_eq_invalidDigit_iff (by decide), Verdict, if_neg h]
    | tooLarge =>
      rw [readNumeral_eq_overflow_iff (by decide), Verdict]
      exact (and_iff_right h).symm
    | tooSmall =>
      refine iff_of_false (fun he => ?_) (fun hv => h hv.1)
      obtain he | he := readNumeral_error_cases he <;> cases he

lemma readWord_toInt_eq_ok_iff {cs : List Char} {v : Int} :
    (readWord cs).map Int32.toInt = .ok v ↔ Verdict cs (.ok v) := by
  have hread : (readWord cs).map Int32.toInt = .ok v ↔ ∃ w, readWord cs = .ok w ∧ w.toInt = v := by
    cases readWord cs <;> simp [Except.map]
  rw [hread, Verdict, ← and_assoc, ← numeral_iff]
  constructor
  · rintro ⟨w,hw,rfl⟩
    obtain ⟨v,integer,inWord,rfl⟩ := readWord_eq_ok_iff.mp hw
    rw [toInt_ofInt_of_inWord inWord]
    exact ⟨integer,inWord⟩
  · rintro ⟨integer,inWord⟩
    exact ⟨_,readWord_eq_ok_iff.mpr ⟨v,integer,inWord,rfl⟩,toInt_ofInt_of_inWord inWord⟩

/-- Of every token exactly one of four things is said, and reading it gives just that: an integer in range
if there is nothing but digits behind the sign; a number too large, or behind a minus sign too small, as
soon as the digits so far are; and an invalid digit in all cases that are left. -/
theorem readWord_classifies (cs : List Char) :
    (∀ verdict, (readWord cs).map Int32.toInt = verdict ↔ Verdict cs verdict) ∧
    (∃! verdict, Verdict cs verdict) ∧
    (Verdict cs (.error .invalidDigit) ↔
      (∀ v, ¬ Verdict cs (.ok v)) ∧ ¬ Verdict cs (.error .tooLarge) ∧ ¬ Verdict cs (.error .tooSmall)) := by
  have hread : ∀ verdict, (readWord cs).map Int32.toInt = verdict ↔ Verdict cs verdict := by
    rintro (e | v)
    · rw [map_eq_error_iff, readWord_eq_error_iff]
    · exact readWord_toInt_eq_ok_iff
  refine ⟨hread,⟨_,(hread _).mp rfl,fun verdict h => ((hread verdict).mpr h).symm⟩,?_⟩
  simp only [← hread]
  rcases (readWord cs).map Int32.toInt with (_ | _ | _) | v <;> simp

example : readWord "2147483647x".toList = .error .invalidDigit ∧
    readWord "2147483648x".toList = .error .tooLarge ∧
    readWord "-02147483648".toList = .ok (-2147483648) := ⟨rfl,rfl,rfl⟩

end StackMachine.Text
