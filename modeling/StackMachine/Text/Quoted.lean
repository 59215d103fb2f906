import StackMachine.Text.Unprintable

/-! Text between double quotes for people to read: double quotes and backslashes carry a backslash, and
what cannot be shown is given by its code point. -/
namespace StackMachine.Text

/-- The hexadecimal digits of `n`, without leading zeros. -/
def hexadecimal (n : Nat) : List Char := Nat.toDigits 16 n

def showChar (c : Char) : List Char :=
  if c = '\x00' then ['\\', '0']
  else if c = '\t' then ['\\', 't']
  else if c = '\r' then ['\\', 'r']
  else if c = '\n' then ['\\', 'n']
  else if c = '"' || c = '\\' then ['\\', c]
  else if isUnprintable c then ['\\', 'u', '\x7b'] ++ hexadecimal c.toNat ++ ['\x7d']
  else [c]

def quoted (s : String) : String := String.ofList ('"' :: s.toList.flatMap showChar ++ ['"'])

end StackMachine.Text
