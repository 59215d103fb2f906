import StackMachine.Data.Datum

/-! Data written as JSON, on one line without blanks or spread over lines with two spaces a level. -/
namespace StackMachine.Json

def hexDigit (d : Nat) : Char := if d < 10 then Char.ofNat (48 + d) else Char.ofNat (87 + d)

/-- A character of a text as it stands between the quotes: quote, backslash and the control characters
below space are escaped, everything else stands for itself. -/
def escape (c : Char) : List Char :=
  if c = '"' then ['\\', '"']
  else if c = '\\' then ['\\', '\\']
  else if c = '\x08' then ['\\', 'b']
  else if c = '\x0c' then ['\\', 'f']
  else if c = '\n' then ['\\', 'n']
  else if c = '\r' then ['\\', 'r']
  else if c = '\t' then ['\\', 't']
  else if c.toNat < 0x20 then
    ['\\', 'u', '0', '0', hexDigit (c.toNat / 16), hexDigit (c.toNat % 16)]
  else [c]

def quote (s : String) : List Char := '"' :: s.toList.flatMap escape ++ ['"']

/-- The pieces of a list or record between its brackets. -/
def commaSeparated (pieces : List (List Char)) : List Char := List.intercalate [','] pieces

mutual

/-- The shortest text of a value. -/
def compactChars : Datum → List Char
  | .null => "null".toList
  | .bool b => if b then "true".toList else "false".toList
  | .int i => Text.signedDecimal i
  | .text s => quote s
  | .list items => '[' :: commaSeparated (compactItems items) ++ [']']
  | .record members => '\x7b' :: commaSeparated (compactMembers members) ++ ['\x7d']
  | .other lexeme | .unvalued lexeme => lexeme.toList
termination_by structural d => d

def compactItems : List Datum → List (List Char)
  | [] => []
  | d :: ds => compactChars d :: compactItems ds
termination_by structural ds => ds

def compactMembers : List (String × Datum) → List (List Char)
  | [] => []
  | m :: ms => compactMember m :: compactMembers ms
termination_by structural ms => ms

def compactMember : String × Datum → List Char
  | (key, d) => quote key ++ ':' :: compactChars d
termination_by structural m => m

end

/-- A new line at nesting `level`. -/
def newline (level : Nat) : List Char := '\n' :: List.replicate (2 * level) ' '

mutual

/-- The text of a value that stands at nesting `level`, one item or member a line. -/
def prettyChars : Nat → Datum → List Char
  | _, .null => "null".toList
  | _, .bool b => if b then "true".toList else "false".toList
  | _, .int i => Text.signedDecimal i
  | _, .text s => quote s
  | _, .list [] => ['[', ']']
  | level, .list items =>
    '[' :: commaSeparated (prettyItems (level + 1) items) ++ newline level ++ [']']
  | _, .record [] => ['\x7b', '\x7d']
  | level, .record members =>
    '\x7b' :: commaSeparated (prettyMembers (level + 1) members) ++ newline level ++ ['\x7d']
  | _, .other lexeme | _, .unvalued lexeme => lexeme.toList
termination_by structural _ d => d

def prettyItems : Nat → List Datum → List (List Char)
  | _, [] => []
  | level, d :: ds => (newline level ++ prettyChars level d) :: prettyItems level ds
termination_by structural _ ds => ds

def prettyMembers : Nat → List (String × Datum) → List (List Char)
  | _, [] => []
  | level, m :: ms => (newline level ++ prettyMember level m) :: prettyMembers level ms
termination_by structural _ ms => ms

def prettyMember : Nat → String × Datum → List Char
  | level, (key, d) => quote key ++ ':' :: ' ' :: prettyChars level d
termination_by structural _ m => m

end

def compact (d : Datum) : String := String.ofList (compactChars d)

def pretty (d : Datum) : String := String.ofList (prettyChars 0 d)

end StackMachine.Json
