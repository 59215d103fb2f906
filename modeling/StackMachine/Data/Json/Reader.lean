import StackMachine.Data.Datum

/-! Reading JSON. The whole text has to be one value; blanks may stand around any token. A number with a
fraction or an exponent, and negative zero, is not an integer; a string with an unpaired surrogate is no
text. Both can be passed over but fit no field. -/
namespace StackMachine.Json

def isBlank (c : Char) : Bool := c == ' ' || c == '\t' || c == '\n' || c == '\r'

def skipBlanks (cs : List Char) : List Char := cs.dropWhile isBlank

/-! ### Strings -/

def hexValue? (c : Char) : Option Nat :=
  if '0' ≤ c && c ≤ '9' then some (c.toNat - 48)
  else if 'a' ≤ c && c ≤ 'f' then some (c.toNat - 87)
  else if 'A' ≤ c && c ≤ 'F' then some (c.toNat - 55)
  else none

/-- The number that a run of hexadecimal digits stands for. -/
def hexNumber? (cs : List Char) : Option Nat :=
  cs.foldlM (fun n c => (hexValue? c).map (16 * n + ·)) 0

/-- What a backslash with one character behind it stands for. -/
def shortEscape? : Char → Option Char
  | '"' => some '"'
  | '\\' => some '\\'
  | '/' => some '/'
  | 'b' => some '\x08'
  | 'f' => some '\x0c'
  | 'n' => some '\n'
  | 'r' => some '\r'
  | 't' => some '\t'
  | _ => none

/-- Read up to the closing quote. Each character counts as its code point, each numbered escape as the
number it gives, which may be half of a surrogate pair. -/
def readUnits : List Char → Option (List Nat × List Char)
  | [] => none
  | '"' :: rest => some ([], rest)
  | '\\' :: 'u' :: a :: b :: c :: d :: rest => do
    let unit ← hexNumber? [a, b, c, d]
    let (units, rest) ← readUnits rest
    some (unit :: units, rest)
  | '\\' :: c :: rest => do
    let unit ← shortEscape? c
    let (units, rest) ← readUnits rest
    some (unit.toNat :: units, rest)
  | c :: rest =>
    if c.toNat < 0x20 || c == '\\' then none
    else do
      let (units, rest) ← readUnits rest
      some (c.toNat :: units, rest)

def isHighSurrogate (u : Nat) : Bool := 0xD800 ≤ u && u < 0xDC00

def isLowSurrogate (u : Nat) : Bool := 0xDC00 ≤ u && u < 0xE000

/-- The text of code points in which surrogates stand in pairs. -/
def textOfUnits? : List Nat → Option (List Char)
  | [] => some []
  | [u] => if isHighSurrogate u || isLowSurrogate u then none else some [Char.ofNat u]
  | u :: v :: rest =>
    if isHighSurrogate u then
      if isLowSurrogate v then
        (textOfUnits? rest).map (Char.ofNat (0x10000 + (u - 0xD800) * 0x400 + (v - 0xDC00)) :: ·)
      else none
    else if isLowSurrogate u then none
    else (textOfUnits? (v :: rest)).map (Char.ofNat u :: ·)

/-- The characters that reading has passed, from `cs` on to `rest`. -/
def lexeme (cs rest : List Char) : String := String.ofList (cs.take (cs.length - rest.length))

/-- Read the rest of a string, behind its opening quote. -/
def readString (cs : List Char) : Option (Datum × List Char) := do
  let (units, rest) ← readUnits cs
  match textOfUnits? units with
  | some text => some (.text (String.ofList text), rest)
  | none => some (.other (lexeme cs rest), rest)

/-! ### Numbers -/

/-- Read a run of digits that must not be empty. -/
def readRun (cs : List Char) : Option (List Char × List Char) :=
  match cs.span Text.isDigit with
  | ([], _) => none
  | run => some run

/-- Read the fraction of a number, if it has one. -/
def readFraction : List Char → Option (List Char × List Char)
  | '.' :: rest => (readRun rest).map fun run => ('.' :: run.1, run.2)
  | cs => some ([], cs)

/-- Read the exponent of a number, if it has one. -/
def readExponent : List Char → Option (List Char × List Char)
  | c :: rest =>
    if c == 'e' || c == 'E' then
      match rest with
      | '+' :: rest => (readRun rest).map fun run => (c :: '+' :: run.1, run.2)
      | '-' :: rest => (readRun rest).map fun run => (c :: '-' :: run.1, run.2)
      | rest => (readRun rest).map fun run => (c :: run.1, run.2)
    else some ([], c :: rest)
  | [] => some ([], [])

def digitsValue (cs : List Char) : Nat := cs.foldl (fun n c => n * 10 + Text.digitValue c) 0

/-- The number with these digits and nothing behind them. -/
def integerOf (negative : Bool) (digits : List Char) : Datum :=
  let value := digitsValue digits
  if negative then
    if value == 0 then .other (String.ofList ('-' :: digits)) else .int (-value)
  else .int value

/-- Read a number behind its sign. Digits have no leading zero. -/
def readUnsigned (negative : Bool) (cs : List Char) : Option (Datum × List Char) := do
  let (digits, rest) ← readRun cs
  if digits.head? = some '0' && digits.tail != [] then none
  else
    let (fraction, rest) ← readFraction rest
    let (exponent, rest) ← readExponent rest
    let sign := if negative then ['-'] else []
    if fraction.isEmpty && exponent.isEmpty then some (integerOf negative digits, rest)
    else some (.other (String.ofList (sign ++ digits ++ fraction ++ exponent)), rest)

def readNumber : List Char → Option (Datum × List Char)
  | '-' :: cs => readUnsigned true cs
  | cs => readUnsigned false cs

/-! ### Values -/

/-- A record, unless one of its names is no text. -/
def recordOf (members : List (Datum × Datum)) : Option (List (String × Datum)) :=
  members.mapM fun m => m.1.text?.map (·, m.2)

mutual

/-- Read one value. The number bounds the nesting and the lengths of lists and records together; no value
needs more than it has characters. -/
def readValue : Nat → List Char → Option (Datum × List Char)
  | 0, _ => none
  | n + 1, cs =>
    match skipBlanks cs with
    | 'n' :: 'u' :: 'l' :: 'l' :: rest => some (.null, rest)
    | 't' :: 'r' :: 'u' :: 'e' :: rest => some (.bool true, rest)
    | 'f' :: 'a' :: 'l' :: 's' :: 'e' :: rest => some (.bool false, rest)
    | '"' :: rest => readString rest
    | '[' :: rest =>
      match skipBlanks rest with
      | ']' :: rest => some (.list [], rest)
      | rest => readItems n [] rest
    | '\x7b' :: rest =>
      match skipBlanks rest with
      | '\x7d' :: rest => some (.record [], rest)
      | rest => readMembers n [] rest
    | cs => readNumber cs

/-- Read the items of a list behind those in `done`, the last one first. -/
def readItems : Nat → List Datum → List Char → Option (Datum × List Char)
  | 0, _, _ => none
  | n + 1, done, cs => do
    let (d, rest) ← readValue n cs
    match skipBlanks rest with
    | ',' :: rest => readItems n (d :: done) rest
    | ']' :: rest => some (.list (d :: done).reverse, rest)
    | _ => none

/-- Read the members of a record behind those in `done`, the last one first. -/
def readMembers : Nat → List (Datum × Datum) → List Char → Option (Datum × List Char)
  | 0, _, _ => none
  | n + 1, done, cs =>
    match skipBlanks cs with
    | '"' :: rest => do
      let (key, rest) ← readString rest
      match skipBlanks rest with
      | ':' :: rest => do
        let (d, rest) ← readValue n rest
        match skipBlanks rest with
        | ',' :: rest => readMembers n ((key, d) :: done) rest
        | '\x7d' :: rest =>
          match recordOf ((key, d) :: done).reverse with
          | some members => some (.record members, rest)
          | none => some (.other (lexeme cs rest), rest)
        | _ => none
      | _ => none
    | _ => none

end

/-- Read a text that is one value. -/
def read (text : String) : Option Datum :=
  let cs := text.toList
  match readValue cs.length cs with
  | some (d, rest) => if (skipBlanks rest).isEmpty then some d else none
  | none => none

/-- In JSON an absent payload is `null`, and a list that gives a record has no items to spare. -/
def dialect : Datum.Dialect where
  isUnit
    | .null => true
    | _ => false
  surplusItems := false

end StackMachine.Json
