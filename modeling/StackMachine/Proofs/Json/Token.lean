import Mathlib.Data.List.TakeDrop
import StackMachine.Data.Json.Reader
import StackMachine.Data.Json.Writer
import StackMachine.Proofs.Numeral

/-! The tokens of JSON. Every character of a string and every integer is read back from the way in which it
is written. -/
namespace StackMachine.Json

/-! ### Strings -/

/-- A character is written with a backslash and one more character, with its number if it is another
control character, and otherwise as it is. -/
lemma escape_cases (c : Char) :
    (∃ d, shortEscape? d = some c ∧ escape c = ['\\', d]) ∨
    (c.toNat < 0x20 ∧ escape c = ['\\', 'u', '0', '0', hexDigit (c.toNat / 16), hexDigit (c.toNat % 16)]) ∨
    (c ≠ '"' ∧ c ≠ '\\' ∧ ¬ c.toNat < 0x20 ∧ escape c = [c]) := by
  by_cases hshort : c ∈ ['"', '\\', '\x08', '\x0c', '\n', '\r', '\t']
  · left
    simp only [List.mem_cons, List.not_mem_nil, or_false] at hshort
    obtain rfl | rfl | rfl | rfl | rfl | rfl | rfl := hshort <;> exact ⟨_,rfl,rfl⟩
  · right
    simp only [List.mem_cons, List.not_mem_nil, or_false, not_or] at hshort
    obtain ⟨hquote,hslash,hb,hf,hn,hr,ht⟩ := hshort
    by_cases hcontrol : c.toNat < 0x20
    · exact .inl ⟨hcontrol,by simp only [escape, hquote, hslash, hb, hf, hn, hr, ht, hcontrol, if_true, if_false]⟩
    · exact .inr ⟨hquote,hslash,hcontrol,
        by simp only [escape, hquote, hslash, hb, hf, hn, hr, ht, hcontrol, if_false]⟩

/-- What was read of a string with one more unit before it. -/
def addUnit (unit : Nat) (read : Option (List Nat × List Char)) : Option (List Nat × List Char) :=
  read.map fun read => (unit :: read.1, read.2)

lemma readUnits_short {c d : Char} (h : shortEscape? d = some c) (cs : List Char) :
    readUnits ('\\' :: d :: cs) = addUnit c.toNat (readUnits cs) := by
  have hu : d ≠ 'u' := by
    rintro rfl
    cases h
  rw [readUnits, h]
  · cases readUnits cs <;> rfl
  · intro _ _ _ _ _ hd
    exact absurd hd hu

lemma hexNumber?_control {n : Nat} (h : n < 0x20) :
    hexNumber? ['0', '0', hexDigit (n / 16), hexDigit (n % 16)] = some n := by
  decide +revert

lemma readUnits_control {n : Nat} (h : n < 0x20) (cs : List Char) :
    readUnits ('\\' :: 'u' :: '0' :: '0' :: hexDigit (n / 16) :: hexDigit (n % 16) :: cs) =
      addUnit n (readUnits cs) := by
  rw [readUnits, hexNumber?_control h]
  cases readUnits cs <;> rfl

lemma readUnits_plain {c : Char} (hquote : c ≠ '"') (hslash : c ≠ '\\') (hcontrol : ¬ c.toNat < 0x20)
    (cs : List Char) : readUnits (c :: cs) = addUnit c.toNat (readUnits cs) := by
  have hkept : ¬ (decide (c.toNat < 0x20) || c == '\\') = true := by simp [hslash, hcontrol]
  rw [readUnits, if_neg hkept]
  · cases readUnits cs <;> rfl
  · exact hquote
  · intro _ _ _ _ _ hc
    exact absurd hc hslash
  · intro _ _ hc
    exact absurd hc hslash

/-- However a character is written, it is read back. -/
lemma readUnits_escape (c : Char) (cs : List Char) :
    readUnits (escape c ++ cs) = addUnit c.toNat (readUnits cs) := by
  obtain ⟨d,hd,he⟩ | ⟨hcontrol,he⟩ | ⟨hquote,hslash,hcontrol,he⟩ := escape_cases c <;> rw [he]
  · exact readUnits_short hd cs
  · exact readUnits_control hcontrol cs
  · exact readUnits_plain hquote hslash hcontrol cs

lemma readUnits_flatMap_escape (cs rest : List Char) :
    readUnits (cs.flatMap escape ++ '"' :: rest) = some (cs.map Char.toNat, rest) := by
  induction cs with
  | nil => rfl
  | cons c cs ih =>
    rw [List.flatMap_cons, List.append_assoc, readUnits_escape, ih]
    rfl

/-- No character is half of a surrogate pair. -/
lemma not_surrogate (c : Char) : isHighSurrogate c.toNat = false ∧ isLowSurrogate c.toNat = false := by
  have hvalid : c.toNat < 0xD800 ∨ 0xDFFF < c.toNat ∧ c.toNat < 0x110000 := c.valid
  simp only [isHighSurrogate, isLowSurrogate, Bool.and_eq_false_iff, decide_eq_false_iff_not]
  omega

lemma textOfUnits?_map_toNat (cs : List Char) : textOfUnits? (cs.map Char.toNat) = some cs := by
  induction cs with
  | nil => rfl
  | cons c cs ih =>
    have hc := not_surrogate c
    cases cs with
    | nil => simp [textOfUnits?, hc.1, hc.2]
    | cons d cs =>
      simp only [List.map_cons] at ih ⊢
      simp [textOfUnits?, hc.1, hc.2, ih]

/-- A text is read back from between its quotes. -/
theorem readString_quote (s : String) (rest : List Char) :
    readString (s.toList.flatMap escape ++ '"' :: rest) = some (.text s, rest) := by
  simp only [readString, readUnits_flatMap_escape, Option.bind_eq_bind, Option.bind_some,
    textOfUnits?_map_toNat, String.ofList_toList]

/-! ### Numbers -/

/-- The characters by which a number could go on. -/
def extendsNumber (c : Char) : Bool := Text.isDigit c || c == '.' || c == 'e' || c == 'E'

/-- Where a number ends: nothing follows by which it could go on. -/
def Stops (cs : List Char) : Prop := ∀ c ∈ cs.head?, extendsNumber c = false

lemma Stops.head_ne {c : Char} {cs : List Char} (h : Stops (c :: cs)) :
    Text.isDigit c = false ∧ c ≠ '.' ∧ c ≠ 'e' ∧ c ≠ 'E' := by
  have hc := h c rfl
  simp only [extendsNumber, Bool.or_eq_false_iff, beq_eq_false_iff_ne] at hc
  exact ⟨hc.1.1.1,hc.1.1.2,hc.1.2,hc.2⟩

lemma readRun_append {ds rest : List Char} (hds : Text.Digits ds) (hrest : Stops rest) :
    readRun (ds ++ rest) = some (ds, rest) := by
  have hstop : rest.takeWhile Text.isDigit = [] ∧ rest.dropWhile Text.isDigit = rest := by
    cases rest with
    | nil => exact ⟨rfl,rfl⟩
    | cons c rest => simp [hrest.head_ne.1]
  rw [readRun, List.span_eq_takeWhile_dropWhile, List.takeWhile_append_of_pos hds.all,
    List.dropWhile_append_of_pos hds.all, hstop.1, hstop.2, List.append_nil]
  split
  next h => exact absurd (Prod.mk.inj h).1 hds.nonempty
  next => rfl

lemma readFraction_of_stops {cs : List Char} (h : Stops cs) : readFraction cs = some ([], cs) := by
  unfold readFraction
  split
  · exact absurd rfl h.head_ne.2.1
  · rfl

lemma readExponent_of_stops {cs : List Char} (h : Stops cs) : readExponent cs = some ([], cs) := by
  cases cs with
  | nil => rfl
  | cons c cs =>
    have hc := h.head_ne
    simp [readExponent, hc.2.2.1, hc.2.2.2]

/-- Digits without a leading zero are read up to where the number ends. -/
lemma readUnsigned_append (negative : Bool) {ds rest : List Char} (hds : Text.Digits ds)
    (hzero : ds.head? = some '0' → ds.tail = []) (hrest : Stops rest) :
    readUnsigned negative (ds ++ rest) = some (integerOf negative ds, rest) := by
  have hlead : ¬ (decide (ds.head? = some '0') && ds.tail != []) = true := by
    simpa using hzero
  simp only [readUnsigned, readRun_append hds hrest, Option.bind_eq_bind, Option.bind_some]
  rw [if_neg hlead, readFraction_of_stops hrest, Option.bind_some, readExponent_of_stops hrest,
    Option.bind_some]
  rfl

lemma digitChar_ne_zero {d : Nat} (hd : d < 10) (h : d ≠ 0) : Text.digitChar d ≠ '0' := by
  decide +revert

lemma head?_decimal_ne {n : Nat} (h : n ≠ 0) : (Text.decimal n).head? ≠ some '0' := by
  fun_induction Text.decimal n with
  | case1 n hn => simpa using digitChar_ne_zero hn h
  | case2 n hn ih =>
    obtain ⟨c,ds,hc⟩ := List.exists_cons_of_ne_nil (Text.digits_decimal (n / 10)).nonempty
    have hhead := ih (by omega)
    rw [hc] at hhead ⊢
    exact hhead

/-- Only the numeral of zero starts with a zero. -/
lemma tail_decimal_of_head? {n : Nat} (h : (Text.decimal n).head? = some '0') :
    (Text.decimal n).tail = [] := by
  by_cases hn : n = 0
  · subst hn
    rw [Text.decimal]
    rfl
  · exact absurd h (head?_decimal_ne hn)

lemma digitsValue_decimal (n : Nat) : digitsValue (Text.decimal n) = n := Text.valueOnto_decimal n

/-- An integer is read back from its numeral. -/
theorem readNumber_signedDecimal (i : Int) {rest : List Char} (hrest : Stops rest) :
    readNumber (Text.signedDecimal i ++ rest) = some (.int i, rest) := by
  have hds := Text.digits_decimal i.natAbs
  have hread := fun negative => readUnsigned_append negative hds tail_decimal_of_head? hrest
  unfold Text.signedDecimal
  split
  next hi =>
    have hvalue : ¬ (i.natAbs == 0) = true := by simp; omega
    rw [List.cons_append, readNumber, hread, integerOf, digitsValue_decimal]
    simp only [if_true, if_neg hvalue]
    rw [show -(i.natAbs : Int) = i by omega]
  next hi =>
    have hvalue : (i.natAbs : Int) = i := by omega
    obtain ⟨c,ds,hc⟩ := List.exists_cons_of_ne_nil hds.nonempty
    have hsign := (hc ▸ hds).head_ne.1
    have hnumber : readNumber (Text.decimal i.natAbs ++ rest) =
        readUnsigned false (Text.decimal i.natAbs ++ rest) := by
      rw [hc, List.cons_append, readNumber]
      intro _ h
      exact hsign (List.cons.inj h).1
    rw [hnumber, hread, integerOf, digitsValue_decimal, hvalue]
    rfl

end StackMachine.Json
