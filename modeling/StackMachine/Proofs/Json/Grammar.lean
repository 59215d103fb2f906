import Mathlib.Data.List.TakeWhile
import StackMachine.Proofs.Json.Token

/-! JSON as a language: which texts stand for a value. A token is written in one way only, but blanks may
stand around it. The reader gets the value back from each of these texts, and both layouts of the writer are
among them. -/
namespace StackMachine.Json

/-! ### The grammar -/

def AllBlank (cs : List Char) : Prop := ∀ c ∈ cs, isBlank c = true

lemma allBlank_nil : AllBlank [] := fun _ hc => absurd hc List.not_mem_nil

/-- The text consists of pieces with a comma between any two of them and blanks around each, and the pieces
stand for the values in the list, in order. There is one at least. -/
inductive Separated {α : Type} (stands : List Char → α → Prop) : List Char → List α → Prop
  | one {before cs behind : List Char} {a : α} (hbefore : AllBlank before) (piece : stands cs a)
      (hbehind : AllBlank behind) : Separated stands (before ++ cs ++ behind) [a]
  | more {before cs behind rest : List Char} {a : α} {as : List α} (hbefore : AllBlank before)
      (piece : stands cs a) (hbehind : AllBlank behind) (others : Separated stands rest as) :
      Separated stands (before ++ cs ++ behind ++ ',' :: rest) (a :: as)

/-- The text is a name, a colon and a text that stands for the value. -/
inductive Member (stands : List Char → Datum → Prop) : List Char → String × Datum → Prop
  | intro {before behind cs : List Char} {key : String} {d : Datum} (hbefore : AllBlank before)
      (hbehind : AllBlank behind) (value : stands cs d) :
      Member stands (quote key ++ before ++ ':' :: behind ++ cs) (key, d)

/-- The text stands for the value. -/
inductive Spells : List Char → Datum → Prop
  | null : Spells ['n', 'u', 'l', 'l'] .null
  | boolTrue : Spells ['t', 'r', 'u', 'e'] (.bool true)
  | boolFalse : Spells ['f', 'a', 'l', 's', 'e'] (.bool false)
  | int (i : Int) : Spells (Text.signedDecimal i) (.int i)
  | text (s : String) : Spells (quote s) (.text s)
  | emptyList {blanks : List Char} (hblanks : AllBlank blanks) : Spells ('[' :: blanks ++ [']']) (.list [])
  | list {body : List Char} {items : List Datum} (hbody : Separated Spells body items) :
      Spells ('[' :: body ++ [']']) (.list items)
  | emptyRecord {blanks : List Char} (hblanks : AllBlank blanks) :
      Spells ('\x7b' :: blanks ++ ['\x7d']) (.record [])
  | record {body : List Char} {members : List (String × Datum)}
      (hbody : Separated (Member Spells) body members) :
      Spells ('\x7b' :: body ++ ['\x7d']) (.record members)

/-! ### Reading -/

lemma skipBlanks_append {blanks : List Char} (h : AllBlank blanks) (cs : List Char) :
    skipBlanks (blanks ++ cs) = skipBlanks cs :=
  List.dropWhile_append_of_pos h

lemma skipBlanks_cons {c : Char} (h : isBlank c = false) (cs : List Char) : skipBlanks (c :: cs) = c :: cs := by
  simp [skipBlanks, h]

lemma extendsNumber_of_isBlank {c : Char} (h : isBlank c = true) : extendsNumber c = false := by
  simp only [isBlank, Bool.or_eq_true, beq_iff_eq] at h
  obtain ((rfl | rfl) | rfl) | rfl := h <;> rfl

lemma stops_append {blanks : List Char} (h : AllBlank blanks) {c : Char} (hc : extendsNumber c = false)
    (rest : List Char) : Stops (blanks ++ c :: rest) := by
  intro e he
  cases blanks with
  | nil =>
    obtain rfl := Option.some.inj he
    exact hc
  | cons b blanks =>
    obtain rfl := Option.some.inj he
    exact extendsNumber_of_isBlank (h b List.mem_cons_self)

/-- The characters that a number starts with. -/
def OpensNumber (c : Char) : Prop := c = '-' ∨ Text.isDigit c = true

lemma OpensNumber.ne {c d : Char} (h : OpensNumber c) (hminus : d ≠ '-') (hdigit : Text.isDigit d = false) :
    c ≠ d := by
  rintro rfl
  obtain h | h := h
  · exact hminus h
  · rw [h] at hdigit
    cases hdigit

lemma OpensNumber.isBlank_eq {c : Char} (h : OpensNumber c) : isBlank c = false := by
  rw [Bool.eq_false_iff]
  intro hblank
  simp only [isBlank, Bool.or_eq_true, beq_iff_eq] at hblank
  obtain ((rfl | rfl) | rfl) | rfl := hblank <;> exact h.ne (by decide) (by decide) rfl

lemma exists_signedDecimal_eq_cons (i : Int) : ∃ c cs, Text.signedDecimal i = c :: cs ∧ OpensNumber c := by
  have hds := Text.digits_decimal i.natAbs
  unfold Text.signedDecimal
  split
  · exact ⟨_,_,rfl,.inl rfl⟩
  · obtain ⟨c,ds,hc⟩ := List.exists_cons_of_ne_nil hds.nonempty
    exact ⟨c,ds,hc,.inr (hds.all c (hc ▸ List.mem_cons_self))⟩

/-- A text that stands for a value starts with a character of its own. -/
lemma Spells.exists_eq_cons {cs : List Char} {d : Datum} (h : Spells cs d) :
    ∃ c cs', cs = c :: cs' ∧ isBlank c = false ∧ c ≠ ']' := by
  cases h with
  | int i =>
    obtain ⟨c,ds,hc,hopens⟩ := exists_signedDecimal_eq_cons i
    exact ⟨c,ds,hc,hopens.isBlank_eq,hopens.ne (by decide) (by decide)⟩
  | _ => exact ⟨_,_,rfl,by decide,by decide⟩

lemma readValue_append {blanks : List Char} (h : AllBlank blanks) (n : Nat) (cs : List Char) :
    readValue n (blanks ++ cs) = readValue n cs := by
  cases n with
  | zero => rfl
  | succ n => rw [readValue, readValue, skipBlanks_append h]

/-- What starts like a number is read as one. -/
lemma readValue_number {c : Char} (h : OpensNumber c) (n : Nat) (cs : List Char) :
    readValue (n + 1) (c :: cs) = readNumber (c :: cs) := by
  rw [readValue, skipBlanks_cons h.isBlank_eq]
  -- Every other case of the reader has a first character of its own.
  split
  case h_7 => rfl
  all_goals next heq => exact absurd (List.cons.inj heq).1 (h.ne (by decide) (by decide))

/-- With this bound the reader gets every value back that its text is long enough for. -/
def ReadsValue (n : Nat) : Prop :=
  ∀ ⦃cs : List Char⦄ ⦃d : Datum⦄, Spells cs d → cs.length ≤ n →
    ∀ ⦃rest : List Char⦄, Stops rest → readValue n (cs ++ rest) = some (d, rest)

def ReadsItems (n : Nat) : Prop :=
  ∀ ⦃body : List Char⦄ ⦃items : List Datum⦄, Separated Spells body items → body.length < n →
    ∀ done rest, readItems n done (body ++ ']' :: rest) = some (.list (done.reverse ++ items), rest)

/-- Members as they are kept while they are read. -/
def unchecked (members : List (String × Datum)) : List (Datum × Datum) :=
  members.map fun m => (.text m.1, m.2)

def ReadsMembers (n : Nat) : Prop :=
  ∀ ⦃body : List Char⦄ ⦃members : List (String × Datum)⦄, Separated (Member Spells) body members →
    body.length < n → ∀ done rest,
      readMembers n (unchecked done) (body ++ '\x7d' :: rest) = some (.record (done.reverse ++ members), rest)

lemma recordOf_unchecked (members : List (String × Datum)) :
    recordOf (unchecked members) = some members := by
  induction members with
  | nil => rfl
  | cons m members ih =>
    simp only [recordOf, unchecked, List.map_cons, List.mapM_cons] at ih ⊢
    rw [ih]
    rfl

/-- A value is read from among the blanks around it. -/
lemma ReadsValue.piece {n : Nat} (h : ReadsValue n) {before cs behind : List Char} {d : Datum}
    (hbefore : AllBlank before) (hcs : Spells cs d) (hn : cs.length ≤ n) (hbehind : AllBlank behind)
    {c : Char} (hc : extendsNumber c = false) (rest : List Char) :
    readValue n (before ++ cs ++ behind ++ c :: rest) = some (d, behind ++ c :: rest) := by
  rw [List.append_assoc, List.append_assoc, readValue_append hbefore]
  exact h hcs hn (stops_append hbehind hc rest)

lemma readItems_comma {n : Nat} (h : ReadsValue n) {before cs behind : List Char} {d : Datum}
    (hbefore : AllBlank before) (hcs : Spells cs d) (hn : cs.length ≤ n) (hbehind : AllBlank behind)
    (done : List Datum) (rest : List Char) :
    readItems (n + 1) done (before ++ cs ++ behind ++ ',' :: rest) = readItems n (d :: done) rest := by
  simp only [readItems, h.piece hbefore hcs hn hbehind (c := ',') rfl, skipBlanks_append hbehind,
    skipBlanks_cons (c := ',') rfl, Option.bind_eq_bind, Option.bind_some]

lemma readItems_close {n : Nat} (h : ReadsValue n) {before cs behind : List Char} {d : Datum}
    (hbefore : AllBlank before) (hcs : Spells cs d) (hn : cs.length ≤ n) (hbehind : AllBlank behind)
    (done : List Datum) (rest : List Char) :
    readItems (n + 1) done (before ++ cs ++ behind ++ ']' :: rest) =
      some (.list (done.reverse ++ [d]), rest) := by
  simp only [readItems, h.piece hbefore hcs hn hbehind (c := ']') rfl, skipBlanks_append hbehind,
    skipBlanks_cons (c := ']') rfl, Option.bind_eq_bind, Option.bind_some, List.reverse_cons]

lemma readItems_succ {n : Nat} (hvalue : ReadsValue n) (hitems : ReadsItems n) : ReadsItems (n + 1) := by
  intro body items hbody hlt done rest
  cases hbody with
  | one hbefore piece hbehind =>
    simp only [List.length_append] at hlt
    exact readItems_close hvalue hbefore piece (by omega) hbehind done rest
  | more hbefore piece hbehind others =>
    simp only [List.length_append, List.length_cons] at hlt
    rw [List.append_assoc, List.cons_append, readItems_comma hvalue hbefore piece (by omega) hbehind,
      hitems others (by omega), List.reverse_cons, List.append_assoc, List.singleton_append]

lemma readMembers_comma {n : Nat} (h : ReadsValue n) {before cs behind : List Char} {m : String × Datum}
    (hbefore : AllBlank before) (hcs : Member Spells cs m) (hn : cs.length ≤ n) (hbehind : AllBlank behind)
    (done : List (String × Datum)) (rest : List Char) :
    readMembers (n + 1) (unchecked done) (before ++ cs ++ behind ++ ',' :: rest) =
      readMembers n (unchecked (m :: done)) rest := by
  obtain @⟨before',behind',cs,key,d,hbefore',hbehind',value⟩ := hcs
  simp only [List.length_append] at hn
  have hread := h.piece hbehind' value (by omega) hbehind (c := ',') rfl rest
  simp only [quote, List.append_assoc, List.cons_append, List.nil_append] at hread ⊢
  simp only [readMembers, skipBlanks_append hbefore, skipBlanks_append hbefore', skipBlanks_append hbehind,
    skipBlanks_cons (c := '"') rfl, skipBlanks_cons (c := ':') rfl, skipBlanks_cons (c := ',') rfl,
    readString_quote, hread, Option.bind_eq_bind, Option.bind_some]
  rfl

lemma readMembers_close {n : Nat} (h : ReadsValue n) {before cs behind : List Char} {m : String × Datum}
    (hbefore : AllBlank before) (hcs : Member Spells cs m) (hn : cs.length ≤ n) (hbehind : AllBlank behind)
    (done : List (String × Datum)) (rest : List Char) :
    readMembers (n + 1) (unchecked done) (before ++ cs ++ behind ++ '\x7d' :: rest) =
      some (.record (done.reverse ++ [m]), rest) := by
  obtain @⟨before',behind',cs,key,d,hbefore',hbehind',value⟩ := hcs
  simp only [List.length_append] at hn
  have hread := h.piece hbehind' value (by omega) hbehind (c := '\x7d') rfl rest
  have hrecord : recordOf ((Datum.text key, d) :: unchecked done).reverse = some (done.reverse ++ [(key, d)]) := by
    rw [← recordOf_unchecked]
    simp [unchecked]
  simp only [quote, List.append_assoc, List.cons_append, List.nil_append] at hread ⊢
  simp only [readMembers, skipBlanks_append hbefore, skipBlanks_append hbefore', skipBlanks_append hbehind,
    skipBlanks_cons (c := '"') rfl, skipBlanks_cons (c := ':') rfl, skipBlanks_cons (c := '\x7d') rfl,
    readString_quote, hread, hrecord, Option.bind_eq_bind, Option.bind_some]

lemma readMembers_succ {n : Nat} (hvalue : ReadsValue n) (hmembers : ReadsMembers n) :
    ReadsMembers (n + 1) := by
  intro body members hbody hlt done rest
  cases hbody with
  | one hbefore piece hbehind =>
    simp only [List.length_append] at hlt
    exact readMembers_close hvalue hbefore piece (by omega) hbehind done rest
  | @more before cs behind _ m _ hbefore piece hbehind others =>
    simp only [List.length_append, List.length_cons] at hlt
    rw [List.append_assoc, List.cons_append,
      readMembers_comma hvalue hbefore piece (by omega) hbehind, hmembers others (by omega),
      List.reverse_cons, List.append_assoc, List.singleton_append]

lemma Member.exists_eq_cons {cs : List Char} {m : String × Datum} (h : Member Spells cs m) :
    ∃ c cs', cs = c :: cs' ∧ isBlank c = false ∧ c ≠ '\x7d' := by
  cases h
  exact ⟨_,_,rfl,by decide,by decide⟩

/-- Behind the first blanks there is a text for the same list, which no bracket closes at once. -/
lemma Separated.skipBlanks_eq {α : Type} {stands : List Char → α → Prop} {close : Char} {body : List Char}
    {as : List α} (h : Separated stands body as)
    (opens : ∀ {cs a}, stands cs a → ∃ c cs', cs = c :: cs' ∧ isBlank c = false ∧ c ≠ close) :
    ∃ c body', Separated stands (c :: body') as ∧ (c :: body').length ≤ body.length ∧ c ≠ close ∧
      ∀ rest, skipBlanks (body ++ rest) = c :: body' ++ rest := by
  cases h with
  | @one before _ behind _ hbefore piece hbehind =>
    obtain ⟨c,cs,rfl,hblank,hne⟩ := opens piece
    refine ⟨c,cs ++ behind,?_,by simp,hne,?_⟩
    · simpa using Separated.one allBlank_nil piece hbehind
    · intro rest
      simp only [List.append_assoc, List.cons_append, skipBlanks_append hbefore, skipBlanks_cons hblank]
  | @more before _ behind others' _ _ hbefore piece hbehind others =>
    obtain ⟨c,cs,rfl,hblank,hne⟩ := opens piece
    refine ⟨c,cs ++ behind ++ ',' :: others',?_,by simp,hne,?_⟩
    · simpa using Separated.more allBlank_nil piece hbehind others
    · intro rest
      simp only [List.append_assoc, List.cons_append, skipBlanks_append hbefore, skipBlanks_cons hblank]

lemma readValue_succ {n : Nat} (hitems : ReadsItems n) (hmembers : ReadsMembers n) : ReadsValue (n + 1) := by
  intro cs d hcs hle rest hrest
  cases hcs with
  | null | boolTrue | boolFalse => rfl
  | int i =>
    obtain ⟨c,ds,hc,hopens⟩ := exists_signedDecimal_eq_cons i
    have hread := readNumber_signedDecimal i hrest
    rw [hc] at hread ⊢
    exact (readValue_number hopens n _).trans hread
  | text s =>
    simp only [readValue, quote, List.cons_append, List.append_assoc, List.nil_append,
      skipBlanks_cons (c := '"') rfl, readString_quote]
  | emptyList hblanks =>
    simp only [readValue, List.cons_append, List.append_assoc, List.nil_append,
      skipBlanks_cons (c := '[') rfl, skipBlanks_append hblanks, skipBlanks_cons (c := ']') rfl]
  | @list body items hbody =>
    simp only [List.length_append, List.length_cons, List.length_nil] at hle
    simp only [readValue, List.cons_append, List.append_assoc, List.nil_append, skipBlanks_cons (c := '[') rfl]
    obtain ⟨c,body',hbody',hlength,hne,hskip⟩ := hbody.skipBlanks_eq Spells.exists_eq_cons
    rw [hskip]
    split
    next heq => exact absurd (List.cons.inj heq).1 hne
    next => exact hitems hbody' (by omega) [] rest
  | emptyRecord hblanks =>
    simp only [readValue, List.cons_append, List.append_assoc, List.nil_append,
      skipBlanks_cons (c := '\x7b') rfl, skipBlanks_append hblanks, skipBlanks_cons (c := '\x7d') rfl]
  | @record body members hbody =>
    simp only [List.length_append, List.length_cons, List.length_nil] at hle
    simp only [readValue, List.cons_append, List.append_assoc, List.nil_append, skipBlanks_cons (c := '\x7b') rfl]
    obtain ⟨c,body',hbody',hlength,hne,hskip⟩ := hbody.skipBlanks_eq Member.exists_eq_cons
    rw [hskip]
    split
    next heq => exact absurd (List.cons.inj heq).1 hne
    next => exact hmembers hbody' (by omega) [] rest

/-- With a bound as large as the text the reader gets back what the text stands for. -/
theorem reads (n : Nat) : ReadsValue n ∧ ReadsItems n ∧ ReadsMembers n := by
  induction n with
  | zero =>
    refine ⟨?_,?_,?_⟩
    · intro cs d hcs hle
      obtain ⟨c,cs',rfl,_⟩ := hcs.exists_eq_cons
      exact absurd hle (Nat.not_succ_le_zero _)
    · intro body items _ hlt
      exact absurd hlt (Nat.not_lt_zero _)
    · intro body members _ hlt
      exact absurd hlt (Nat.not_lt_zero _)
  | succ n ih =>
    obtain ⟨hvalue,hitems,hmembers⟩ := ih
    exact ⟨readValue_succ hitems hmembers,readItems_succ hvalue hitems,readMembers_succ hvalue hmembers⟩

/-- A text that stands for a value, with blanks around it, is read as this value. -/
theorem read_of_spells {before cs behind : List Char} {d : Datum} (hbefore : AllBlank before)
    (h : Spells cs d) (hbehind : AllBlank behind) :
    read (String.ofList (before ++ cs ++ behind)) = some d := by
  have hstops : Stops behind := by
    intro c hc
    exact extendsNumber_of_isBlank (hbehind c (List.mem_of_mem_head? hc))
  have hlength : cs.length ≤ (before ++ cs ++ behind).length := by
    simp only [List.length_append]
    omega
  have hread : readValue (before ++ cs ++ behind).length (before ++ cs ++ behind) = some (d, behind) := by
    rw [List.append_assoc before, readValue_append hbefore]
    rw [List.append_assoc] at hlength
    exact (reads _).1 h hlength hstops
  have hend : skipBlanks behind = [] := List.dropWhile_eq_nil_iff.mpr hbehind
  simp only [read, String.toList_ofList, hread, hend, List.isEmpty_nil, if_true]

/-! ### Writing -/

/-- Data that have a value throughout: nothing in them is only kept as it was written. -/
inductive Plain : Datum → Prop
  | null : Plain .null
  | bool (b : Bool) : Plain (.bool b)
  | int (i : Int) : Plain (.int i)
  | text (s : String) : Plain (.text s)
  | list {items : List Datum} (h : ∀ d ∈ items, Plain d) : Plain (.list items)
  | record {members : List (String × Datum)} (h : ∀ m ∈ members, Plain m.2) : Plain (.record members)

lemma Plain.map {α : Type} {write : α → Datum} (h : ∀ a, Plain (write a)) (as : List α) :
    Plain (.list (as.map write)) := by
  apply Plain.list
  simp only [List.mem_map]
  rintro _ ⟨a,_,rfl⟩
  exact h a

/-- A record with one member. -/
lemma Plain.member {key : String} {d : Datum} (h : Plain d) : Plain (.record [(key, d)]) := by
  apply Plain.record
  simpa using h

lemma compactItems_eq_map (items : List Datum) : compactItems items = items.map compactChars := by
  induction items with
  | nil => rfl
  | cons d items ih => rw [compactItems, ih, List.map_cons]

lemma compactMembers_eq_map (members : List (String × Datum)) :
    compactMembers members = members.map compactMember := by
  induction members with
  | nil => rfl
  | cons m members ih => rw [compactMembers, ih, List.map_cons]

lemma prettyItems_eq_map (level : Nat) (items : List Datum) :
    prettyItems level items = items.map fun d => newline level ++ prettyChars level d := by
  induction items with
  | nil => rfl
  | cons d items ih => rw [prettyItems, ih, List.map_cons]

lemma prettyMembers_eq_map (level : Nat) (members : List (String × Datum)) :
    prettyMembers level members = members.map fun m => newline level ++ prettyMember level m := by
  induction members with
  | nil => rfl
  | cons m members ih => rw [prettyMembers, ih, List.map_cons]

lemma allBlank_newline (level : Nat) : AllBlank (newline level) := by
  intro c hc
  simp only [newline, List.mem_cons, List.mem_replicate] at hc
  obtain rfl | ⟨_,rfl⟩ := hc <;> rfl

/-- Pieces that are written with the same blanks before each of them, with a comma between any two. -/
lemma separated_commaSeparated {α : Type} {stands : List Char → α → Prop} {before behind : List Char}
    {write : α → List Char} {as : List α} (hne : as ≠ []) (hbefore : AllBlank before)
    (hbehind : AllBlank behind) (h : ∀ a ∈ as, stands (write a) a) :
    Separated stands (commaSeparated (as.map fun a => before ++ write a) ++ behind) as := by
  induction as with
  | nil => exact absurd rfl hne
  | cons a as ih =>
    have ha := h a List.mem_cons_self
    cases as with
    | nil =>
      have hone := Separated.one hbefore ha hbehind
      simpa [commaSeparated, List.intercalate] using hone
    | cons b as =>
      have hothers := ih (List.cons_ne_nil b as) fun x hx => h x (List.mem_cons_of_mem a hx)
      have hmore := Separated.more hbefore ha allBlank_nil hothers
      simpa [commaSeparated, List.intercalate] using hmore

lemma member_compact {m : String × Datum} (h : Spells (compactChars m.2) m.2) :
    Member Spells (compactMember m) m := by
  rw [compactMember]
  simpa using Member.intro allBlank_nil allBlank_nil h

lemma member_pretty {level : Nat} {m : String × Datum} (h : Spells (prettyChars level m.2) m.2) :
    Member Spells (prettyMember level m) m := by
  have hspace : AllBlank [' '] := by simp [AllBlank, isBlank]
  rw [prettyMember]
  simpa using Member.intro allBlank_nil hspace h

/-- The text on one line stands for the value. -/
theorem spells_compact {d : Datum} (h : Plain d) : Spells (compactChars d) d := by
  induction h with
  | null => exact .null
  | bool b => cases b with
    | false => exact .boolFalse
    | true => exact .boolTrue
  | int i => exact .int i
  | text s => exact .text s
  | @list items h ih =>
    cases items with
    | nil => exact .emptyList allBlank_nil
    | cons d items =>
      have hbody := separated_commaSeparated (List.cons_ne_nil d items) allBlank_nil allBlank_nil ih
      rw [compactChars, compactItems_eq_map]
      exact .list (by simpa using hbody)
  | @record members h ih =>
    cases members with
    | nil => exact .emptyRecord allBlank_nil
    | cons m members =>
      have hbody := separated_commaSeparated (List.cons_ne_nil m members) allBlank_nil allBlank_nil
        fun m hm => member_compact (ih m hm)
      rw [compactChars, compactMembers_eq_map]
      exact .record (by simpa using hbody)

/-- The text over several lines stands for the value, at whatever level it is written. -/
theorem spells_pretty {d : Datum} (h : Plain d) (level : Nat) : Spells (prettyChars level d) d := by
  induction h generalizing level with
  | null => exact .null
  | bool b => cases b with
    | false => exact .boolFalse
    | true => exact .boolTrue
  | int i => exact .int i
  | text s => exact .text s
  | @list items h ih =>
    cases items with
    | nil => exact .emptyList allBlank_nil
    | cons d items =>
      have hbody := separated_commaSeparated (List.cons_ne_nil d items) (allBlank_newline (level + 1))
        (allBlank_newline level) fun d hd => ih d hd (level + 1)
      rw [prettyChars, prettyItems_eq_map]
      · exact .list hbody
      · simp
  | @record members h ih =>
    cases members with
    | nil => exact .emptyRecord allBlank_nil
    | cons m members =>
      have hbody := separated_commaSeparated (List.cons_ne_nil m members) (allBlank_newline (level + 1))
        (allBlank_newline level) fun m hm => member_pretty (ih m hm (level + 1))
      rw [prettyChars, prettyMembers_eq_map]
      · exact .record hbody
      · simp

theorem read_compact {d : Datum} (h : Plain d) : read (compact d) = some d := by
  simpa [compact] using read_of_spells allBlank_nil (spells_compact h) allBlank_nil

/-- What is written over several lines is read back, with a line end behind it or without. -/
theorem read_pretty {d : Datum} (h : Plain d) {behind : List Char} (hbehind : AllBlank behind) :
    read (pretty d ++ String.ofList behind) = some d := by
  simpa [pretty, String.ofList_append] using read_of_spells allBlank_nil (spells_pretty h 0) hbehind

end StackMachine.Json
