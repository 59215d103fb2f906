import StackMachine.Data.Toml.Number

/-! The dates and times of TOML. They are checked against the calendar and the clock, and kept as written. -/
namespace StackMachine.Toml

/-- Read a number of exactly two digits. -/
def readTwo : List Char → Option (Nat × List Char)
  | a :: b :: rest =>
    if Text.isDigit a && Text.isDigit b then some (digitsIn 10 [a, b], rest) else none
  | _ => none

def readMark (mark : Char) : List Char → Option (List Char)
  | c :: rest => if c == mark then some rest else none
  | [] => none

def daysIn (year month : Nat) : Nat :=
  if month == 2 then
    if year % 4 == 0 && (year % 100 != 0 || year % 400 == 0) then 29 else 28
  else if month == 4 || month == 6 || month == 9 || month == 11 then 30
  else 31

def readDate (cs : List Char) : Option (List Char) := do
  let (century, cs) ← readTwo cs
  let (year, cs) ← readTwo cs
  let (month, cs) ← readTwo (← readMark '-' cs)
  let (day, cs) ← readTwo (← readMark '-' cs)
  if 1 ≤ month && month ≤ 12 && 1 ≤ day && day ≤ daysIn (century * 100 + year) month then some cs
  else none

/-- Read the seconds of a time, which may be left out, and their fraction. -/
def readSeconds : List Char → Option (List Char)
  | ':' :: rest => do
    let (second, rest) ← readTwo rest
    if second ≤ 60 then
      match rest with
      | '.' :: c :: rest => if Text.isDigit c then some (rest.dropWhile Text.isDigit) else none
      | rest => some rest
    else none
  | cs => some cs

def readTime (cs : List Char) : Option (List Char) := do
  let (hour, cs) ← readTwo cs
  let (minute, cs) ← readTwo (← readMark ':' cs)
  if hour ≤ 23 && minute ≤ 59 then readSeconds cs else none

/-- Whether `cs` is an offset from universal time, or nothing. -/
def isOffset : List Char → Bool
  | [] | ['Z'] | ['z'] => true
  | sign :: rest =>
    (sign == '+' || sign == '-') &&
      match readTwo rest with
      | some (hour, ':' :: rest) =>
        match readTwo rest with
        | some (minute, []) => hour ≤ 23 && minute ≤ 59
        | _ => false
      | _ => false

def isDate (cs : List Char) : Bool :=
  match readDate cs with
  | some [] => true
  | _ => false

/-- A date, a time, or both with an optional offset. -/
def isDateTime (cs : List Char) : Bool :=
  match readDate cs with
  | some [] => true
  | some (c :: rest) =>
    (c == 'T' || c == 't' || c == ' ') &&
      match readTime rest with
      | some rest => isOffset rest
      | none => false
  | none =>
    match readTime cs with
    | some [] => true
    | _ => false

/-- A date or time as data: a record with one member that nobody asks for, so that a record read from it
has all its fields left out. -/
def dateTime (text : List Char) : Datum := .record [("date-time", .text (String.ofList text))]

end StackMachine.Toml
