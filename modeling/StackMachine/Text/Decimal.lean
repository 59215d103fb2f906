/-! Decimal numerals: the digits of a natural number, signed 32-bit words written and read, and the
bounded natural numbers that the command line takes. Readers go left to right and report the first
thing that is wrong. -/
namespace StackMachine

/-- A value of the machine: a signed 32-bit word with wrapping arithmetic. -/
abbrev Word := Int32

namespace Text

def digitChar (d : Nat) : Char := Char.ofNat ('0'.toNat + d)

def isDigit (c : Char) : Bool := '0' ≤ c && c ≤ '9'

def digitValue (c : Char) : Nat := c.toNat - '0'.toNat

/-- The decimal digits of `n`, without leading zeros. -/
def decimal (n : Nat) : List Char :=
  if n < 10 then [digitChar n] else decimal (n / 10) ++ [digitChar (n % 10)]

/-- The decimal numeral of an integer, with a minus sign below zero. -/
def signedDecimal (i : Int) : List Char :=
  if i < 0 then '-' :: decimal i.natAbs else decimal i.natAbs

def natText (n : Nat) : String := String.ofList (decimal n)

def wordText (w : Word) : String := String.ofList (signedDecimal w.toInt)

/-- Why a token is no numeral of the wanted range. -/
inductive NumeralError
  | invalidDigit
  | tooLarge
  | tooSmall
  deriving DecidableEq, Repr

def NumeralError.message : NumeralError → String
  | .invalidDigit => "invalid digit found in string"
  | .tooLarge => "number too large to fit in target type"
  | .tooSmall => "number too small to fit in target type"

/-- Read digits onto `acc`. A character that is no digit is reported before the overflow it may also
cause, and an overflow before anything to its right. -/
def readDigits (bound : Nat) (overflow : NumeralError) : Nat → List Char → Except NumeralError Nat
  | acc, [] => .ok acc
  | acc, c :: rest =>
    if !isDigit c then .error .invalidDigit
    else if bound < acc * 10 + digitValue c then .error overflow
    else readDigits bound overflow (acc * 10 + digitValue c) rest

/-- Read a non-empty run of digits. -/
def readNumeral (bound : Nat) (overflow : NumeralError) : List Char → Except NumeralError Nat
  | [] => .error .invalidDigit
  | cs => readDigits bound overflow 0 cs

/-- Read a signed 32-bit numeral: at most one sign, then digits. -/
def readWord : List Char → Except NumeralError Word
  | '-' :: cs => (readNumeral 0x80000000 .tooSmall cs).map fun n : Nat => Int32.ofInt (-n)
  | '+' :: cs => (readNumeral 0x7fffffff .tooLarge cs).map fun n : Nat => Int32.ofInt n
  | cs => (readNumeral 0x7fffffff .tooLarge cs).map fun n : Nat => Int32.ofInt n

/-- Read an unsigned 64-bit numeral: at most one plus sign, then digits. -/
def readSize : List Char → Except NumeralError Nat
  | '+' :: cs => readNumeral (UInt64.size - 1) .tooLarge cs
  | cs => readNumeral (UInt64.size - 1) .tooLarge cs

end Text
end StackMachine
