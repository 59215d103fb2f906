import StackMachine.Data.Toml.Scalar

/-! The quoted strings of TOML: with or without escapes, on one line or on several. -/
namespace StackMachine.Toml

/-- The control characters that may not stand in a text as they are; the tab may. -/
def isControl (c : Char) : Bool := (c.toNat < 0x20 && c != '\t') || c == '\x7f'

def shortEscape? : Char → Option Char
  | '"' => some '"'
  | '\\' => some '\\'
  | 'b' => some '\x08'
  | 'e' => some '\x1b'
  | 'f' => some '\x0c'
  | 'n' => some '\n'
  | 'r' => some '\r'
  | 't' => some '\t'
  | _ => none

/-- The character with the number that hexadecimal digits give. -/
def numberedChar? (digits : List Char) : Option Char :=
  if digits.all isHexDigit then
    let n := digitsIn 16 digits
    if n < 0xD800 || (0xE000 ≤ n && n < 0x110000) then some (Char.ofNat n) else none
  else none

/-- Read an escape behind its backslash. -/
def readEscape : List Char → Option (Char × List Char)
  | 'x' :: a :: b :: rest => (numberedChar? [a, b]).map (·, rest)
  | 'u' :: a :: b :: c :: d :: rest => (numberedChar? [a, b, c, d]).map (·, rest)
  | 'U' :: a :: b :: c :: d :: e :: f :: g :: h :: rest =>
    (numberedChar? [a, b, c, d, e, f, g, h]).map (·, rest)
  | c :: rest => (shortEscape? c).map (·, rest)
  | [] => none

/-- Read a string of one line behind its opening quote. The first argument bounds the number of
characters read. -/
def readBasic : Nat → List Char → Option (List Char × List Char)
  | 0, _ | _, [] => none
  | _, '"' :: rest => some ([], rest)
  | n + 1, '\\' :: rest => do
    let (c, rest) ← readEscape rest
    let (text, rest) ← readBasic n rest
    some (c :: text, rest)
  | n + 1, c :: rest =>
    if isControl c then none
    else do
      let (text, rest) ← readBasic n rest
      some (c :: text, rest)

/-- Read a string without escapes behind its opening quote. -/
def readLiteral : List Char → Option (List Char × List Char)
  | [] => none
  | '\x27' :: rest => some ([], rest)
  | c :: rest =>
    if isControl c then none
    else do
      let (text, rest) ← readLiteral rest
      some (c :: text, rest)

/-- Skip one line end that directly follows the opening quotes. -/
def skipFirstNewline : List Char → List Char
  | '\n' :: rest | '\r' :: '\n' :: rest => rest
  | cs => cs

/-- Up to two quotes may stand directly before the closing three. -/
def readClosing (quote : Char) : List Char → Option (List Char × List Char)
  | a :: b :: c :: rest =>
    if a == quote && b == quote && c == quote then
      match rest with
      | d :: e :: rest =>
        if d == quote && e == quote then some ([quote, quote], rest)
        else if d == quote then some ([quote], e :: rest)
        else some ([], d :: e :: rest)
      | [d] => if d == quote then some ([quote], []) else some ([], [d])
      | [] => some ([], [])
    else none
  | _ => none

/-- Skip blanks and line ends. -/
def skipBreaks : List Char → List Char
  | ' ' :: rest | '\t' :: rest | '\n' :: rest | '\r' :: '\n' :: rest => skipBreaks rest
  | cs => cs

/-- Whether a backslash stands at the end of its line. -/
def endsLine (cs : List Char) : Bool :=
  match cs.dropWhile fun c => c == ' ' || c == '\t' with
  | '\n' :: _ | '\r' :: '\n' :: _ => true
  | _ => false

/-- Read a string of several lines. Line ends stay as they are; a backslash at the end of a line drops the
blanks and line ends that follow. -/
def readMultilineBasic : Nat → List Char → Option (List Char × List Char)
  | 0, _ | _, [] => none
  | n + 1, c :: rest =>
    match readClosing '"' (c :: rest) with
    | some closing => some closing
    | none =>
      match c, rest with
      | '\\', rest =>
        if endsLine rest then readMultilineBasic n (skipBreaks rest)
        else do
          let (c, rest) ← readEscape rest
          let (text, rest) ← readMultilineBasic n rest
          some (c :: text, rest)
      | '\n', rest => do
        let (text, rest) ← readMultilineBasic n rest
        some ('\n' :: text, rest)
      | '\r', '\n' :: rest => do
        let (text, rest) ← readMultilineBasic n rest
        some ('\r' :: '\n' :: text, rest)
      | c, rest =>
        if isControl c then none
        else do
          let (text, rest) ← readMultilineBasic n rest
          some (c :: text, rest)

def readMultilineLiteral : Nat → List Char → Option (List Char × List Char)
  | 0, _ | _, [] => none
  | n + 1, c :: rest =>
    match readClosing '\x27' (c :: rest) with
    | some closing => some closing
    | none =>
      match c, rest with
      | '\n', rest => do
        let (text, rest) ← readMultilineLiteral n rest
        some ('\n' :: text, rest)
      | '\r', '\n' :: rest => do
        let (text, rest) ← readMultilineLiteral n rest
        some ('\r' :: '\n' :: text, rest)
      | c, rest =>
        if isControl c then none
        else do
          let (text, rest) ← readMultilineLiteral n rest
          some (c :: text, rest)

/-- Read any quoted string, if one starts here. -/
def readQuoted : List Char → Option (List Char × List Char)
  | '"' :: '"' :: '"' :: rest => readMultilineBasic (rest.length + 1) (skipFirstNewline rest)
  | '\x27' :: '\x27' :: '\x27' :: rest => readMultilineLiteral (rest.length + 1) (skipFirstNewline rest)
  | '"' :: rest => readBasic (rest.length + 1) rest
  | '\x27' :: rest => readLiteral rest
  | _ => none

end StackMachine.Toml
