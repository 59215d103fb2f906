import StackMachine.Data.Datum
import StackMachine.Text.Blank

/-! The numbers of TOML. How a number is written and whether it has a value are two questions: hexadecimal
digits may follow an underscore in any integer, a base may stand without digits, and a number may be too
large. Such numbers have no value, which matters only to a reader that looks at them. -/
namespace StackMachine.Toml

def isHexDigit (c : Char) : Bool :=
  Text.isDigit c || ('a' ≤ c && c ≤ 'f') || ('A' ≤ c && c ≤ 'F')

def hexDigitValue (c : Char) : Nat :=
  if Text.isDigit c then c.toNat - 48 else if 'a' ≤ c then c.toNat - 87 else c.toNat - 55

def isDigitIn (base : Nat) (c : Char) : Bool := isHexDigit c && hexDigitValue c < base

def digitsIn (base : Nat) (cs : List Char) : Nat := cs.foldl (fun n c => n * base + hexDigitValue c) 0

def dropSign : List Char → List Char
  | '+' :: rest | '-' :: rest => rest
  | cs => cs

/-! ### Underscores -/

/-- Whether every underscore stands between two characters of the class `p`. A single character in front
of the first underscore may be anything, a sign for one. -/
def isGrouped (p : Char → Bool) (cs : List Char) : Bool :=
  match Text.splitWhere (· == '_') cs with
  | [] | [_] => true
  | first :: rest =>
    (first.length == 1 || first.getLast?.any p) && rest.all (·.head?.any p) &&
      rest.dropLast.all (·.getLast?.any p)

def ungroup (cs : List Char) : List Char := cs.filter (· != '_')

def isDigitOrUnderscore (c : Char) : Bool := Text.isDigit c || c == '_'

/-! ### Writing -/

/-- A number as written, without underscores. -/
inductive Number
  | integer (base : Nat) (text : List Char)
  | float (text : List Char)

/-- The whole part of a float: at least one digit, and no zero in front of another. -/
def isWhole (cs : List Char) : Bool :=
  match (ungroup cs).length with
  | 0 => false
  | 1 => true
  | _ => cs.head? != some '0'

/-- Whether `cs` is an exponent with its mark, or nothing. -/
def isExponent : List Char → Bool
  | [] => true
  | mark :: rest =>
    (mark == 'e' || mark == 'E') && (dropSign rest).all isDigitOrUnderscore &&
      (dropSign rest).any Text.isDigit

/-- Whether `cs` has the parts of a float, wherever their underscores stand. -/
def isFloat (cs : List Char) : Bool :=
  let (whole, rest) := cs.span isDigitOrUnderscore
  isWhole whole &&
    match rest with
    | '.' :: rest =>
      let (fraction, rest) := rest.span isDigitOrUnderscore
      fraction.any Text.isDigit && isExponent rest
    | rest => isExponent rest

/-- An integer in a base of its own, behind the mark of the base. -/
def Number.inBase? (base : Nat) (digits : List Char) : Option Number :=
  if digits.all (fun c => isDigitIn base c || c == '_') && isGrouped isHexDigit digits then
    some (.integer base (ungroup digits))
  else none

/-- A decimal number: an integer, or a float if it has a point or an exponent. -/
def Number.decimal? (cs : List Char) : Option Number :=
  let body := dropSign cs
  let rest := body.dropWhile Text.isDigit
  if rest.any fun c => c == '.' || c == 'e' || c == 'E' then
    if isFloat body && isGrouped Text.isDigit cs then some (.float (ungroup cs)) else none
  else if body == ['0'] then some (.integer 10 cs)
  else if body.head? != some '0' && !body.isEmpty && (rest.isEmpty || rest.head? == some '_') &&
      isGrouped isHexDigit cs then
    some (.integer 10 (ungroup cs))
  else none

/-- The number written in `cs`. A base excludes a sign. -/
def Number.read? (cs : List Char) : Option Number :=
  match cs with
  | '0' :: 'x' :: digits => inBase? 16 digits
  | '0' :: 'o' :: digits => inBase? 8 digits
  | '0' :: 'b' :: digits => inBase? 2 digits
  | cs =>
    let body := dropSign cs
    if body == ['i', 'n', 'f'] || body == ['n', 'a', 'n'] then some (.float cs) else decimal? cs

/-! ### Values -/

/-- The integers that have a value at all, whatever field they are for. -/
def representable (i : Int) : Bool := -Int.pow 2 127 ≤ i && i < Int.pow 2 128

def integerValue? (base : Nat) (text : List Char) : Option Int :=
  let digits := dropSign text
  if digits.isEmpty || !digits.all (isDigitIn base) then none
  else
    let magnitude := Int.ofNat (digitsIn base digits)
    let value := if text.head? == some '-' then -magnitude else magnitude
    if representable value then some value else none

/-- Floats have double precision. From halfway between the greatest of them and the next power of two on,
a number is too large. -/
def floatLimit : Nat := Nat.pow 2 1024 - Nat.pow 2 970

/-- Whether the number that `digits` give, times ten to the power `scale`, is too large for a float. It
has `digits.length + scale` digits before the point, and the limit has 309. -/
def isTooLarge (digits : List Char) (scale : Int) : Bool :=
  match digits.dropWhile (· == '0') with
  | [] => false
  | digits =>
    let places := Int.ofNat digits.length + scale
    if places == 309 then
      floatLimit * Nat.pow 10 (-scale).toNat ≤ digitsIn 10 digits * Nat.pow 10 scale.toNat
    else 309 < places

/-- The exponent behind its mark. -/
def exponentOf : List Char → Int
  | _ :: '-' :: digits => -Int.ofNat (digitsIn 10 digits)
  | _ :: '+' :: digits => Int.ofNat (digitsIn 10 digits)
  | _ :: digits => Int.ofNat (digitsIn 10 digits)
  | [] => 0

/-- Whether a float has a value. Infinity and what is not a number count as values. -/
def floatHasValue (text : List Char) : Bool :=
  let (whole, rest) := (dropSign text).span Text.isDigit
  match whole, rest with
  | [], _ => true
  | whole, '.' :: rest =>
    let (fraction, rest) := rest.span Text.isDigit
    !isTooLarge (whole ++ fraction) (exponentOf rest - Int.ofNat fraction.length)
  | whole, rest => !isTooLarge whole (exponentOf rest)

def Number.toDatum : Number → Datum
  | .integer base text =>
    match integerValue? base text with
    | some i => .int i
    | none => .unvalued (String.ofList text)
  | .float text =>
    if floatHasValue text then .other (String.ofList text) else .unvalued (String.ofList text)

end StackMachine.Toml
