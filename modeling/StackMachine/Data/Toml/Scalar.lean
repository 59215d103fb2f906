import StackMachine.Data.Toml.DateTime

/-! The bare scalars of TOML: Booleans, numbers, dates and times. -/
namespace StackMachine.Toml

/-- The characters of an atom: all but those that separate values or start a comment. -/
def isAtomChar (c : Char) : Bool :=
  !(c == ' ' || c == '\t' || c == '\n' || c == '\r' || c == '=' || c == ',' || c == '#' || c == '[' ||
    c == ']' || c == '\x7b' || c == '\x7d')

/-- A date with a time behind one blank is one atom. -/
def readAtom (cs : List Char) : List Char × List Char :=
  let (atom, rest) := cs.span isAtomChar
  match rest with
  | ' ' :: a :: b :: ':' :: tail =>
    if isDate atom && Text.isDigit a && Text.isDigit b then
      let (time, rest) := (a :: b :: ':' :: tail).span isAtomChar
      (atom ++ ' ' :: time, rest)
    else (atom, rest)
  | _ => (atom, rest)

def scalar? (atom : List Char) : Option Datum :=
  if atom == ['t', 'r', 'u', 'e'] then some (.bool true)
  else if atom == ['f', 'a', 'l', 's', 'e'] then some (.bool false)
  else if isDateTime atom then some (dateTime atom)
  else (Number.read? atom).map Number.toDatum

end StackMachine.Toml
