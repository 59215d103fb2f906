import StackMachine.Data.Toml.Quoted
import StackMachine.Data.Toml.Table

/-! Reading TOML documents: comments, keys, values, tables and arrays of tables. -/
namespace StackMachine.Toml

def skipSpaces (cs : List Char) : List Char := cs.dropWhile fun c => c == ' ' || c == '\t'

/-- Skip blanks, line ends and comments. The flag says that the text starts inside a comment. -/
def skipTrivia : Bool → List Char → Option (List Char)
  | _, [] => some []
  | _, '\n' :: rest | _, '\r' :: '\n' :: rest => skipTrivia false rest
  | true, c :: rest => if isControl c then none else skipTrivia true rest
  | false, ' ' :: rest | false, '\t' :: rest => skipTrivia false rest
  | false, '#' :: rest => skipTrivia true rest
  | false, cs => some cs

/-- Skip to the next line; only blanks and a comment may stand before it. The flag says that the text
starts inside a comment. -/
def endLine : Bool → List Char → Option (List Char)
  | _, [] => some []
  | _, '\n' :: rest | _, '\r' :: '\n' :: rest => some rest
  | true, c :: rest => if isControl c then none else endLine true rest
  | false, ' ' :: rest | false, '\t' :: rest => endLine false rest
  | false, '#' :: rest => endLine true rest
  | false, _ => none

/-! ### Keys -/

def isBareKeyChar (c : Char) : Bool := c.isAlphanum || c == '_' || c == '-'

def readSimpleKey (cs : List Char) : Option (String × List Char) :=
  match cs with
  | '"' :: rest => (readBasic (rest.length + 1) rest).map fun r => (String.ofList r.1, r.2)
  | '\x27' :: rest => (readLiteral rest).map fun r => (String.ofList r.1, r.2)
  | cs =>
    match cs.span isBareKeyChar with
    | ([], _) => none
    | (key, rest) => some (String.ofList key, rest)

/-- The most names that a key may have. -/
def maxNames : Nat := 80

/-- Read a key with dots in it: the names before the last, and the last. The first argument bounds the
number of names. -/
def readKey : Nat → List Char → Option ((List String × String) × List Char)
  | 0, _ => none
  | n + 1, cs => do
    let (name, rest) ← readSimpleKey (skipSpaces cs)
    match skipSpaces rest with
    | '.' :: rest => do
      let ((path, last), rest) ← readKey n rest
      some ((name :: path, last), rest)
    | rest => some (([], name), rest)

/-! ### Values -/

/-- How deep arrays and tables in line may be nested. -/
def maxNesting : Nat := 80

mutual

/-- Read one value, with room for so many levels of nesting inside. The first argument bounds the nesting
and the lengths of arrays and tables together; no value needs more than it has characters. -/
def readValue : Nat → Nat → List Char → Option (Datum × List Char)
  | 0, _, _ => none
  | n + 1, room, cs =>
    match room, cs with
    | 0, '[' :: _ | 0, '\x7b' :: _ => none
    | room + 1, '[' :: rest => do
      match ← skipTrivia false rest with
      | ']' :: rest => some (.list [], rest)
      | rest => readItems n room [] rest
    | room + 1, '\x7b' :: rest => do
      match ← skipTrivia false rest with
      | '\x7d' :: rest => some (.record [], rest)
      | rest => readMembers n room [] rest
    | _, '"' :: _ | _, '\x27' :: _ => (readQuoted cs).map fun r => (.text (String.ofList r.1), r.2)
    | _, cs =>
      let (atom, rest) := readAtom cs
      (scalar? atom).map (·, rest)

/-- Read the items of an array behind those in `done`, the last one first. A comma may follow the last. -/
def readItems : Nat → Nat → List Datum → List Char → Option (Datum × List Char)
  | 0, _, _, _ => none
  | n + 1, room, done, cs => do
    let (d, rest) ← readValue n room cs
    match ← skipTrivia false rest with
    | ',' :: rest => do
      match ← skipTrivia false rest with
      | ']' :: rest => some (.list (d :: done).reverse, rest)
      | rest => readItems n room (d :: done) rest
    | ']' :: rest => some (.list (d :: done).reverse, rest)
    | _ => none

/-- Read the members of a table in line, adding to those in `done`. Lines may end anywhere but inside a
key, and a comma may follow the last member. -/
def readMembers : Nat → Nat → Entries → List Char → Option (Datum × List Char)
  | 0, _, _, _ => none
  | n + 1, room, done, cs => do
    let ((path, key), rest) ← readKey maxNames cs
    match ← skipTrivia false rest with
    | '=' :: rest => do
      let (d, rest) ← readValue n room (← skipTrivia false rest)
      let done ← done.insert path key d
      match ← skipTrivia false rest with
      | ',' :: rest => do
        match ← skipTrivia false rest with
        | '\x7d' :: rest => some (.record (membersOf done), rest)
        | rest => readMembers n room done rest
      | '\x7d' :: rest => some (.record (membersOf done), rest)
      | _ => none
    | _ => none

end

/-! ### Documents -/

/-- A document as far as it is read: the table that is open, and all tables. -/
structure Document where
  header : List String := []
  entries : Entries := []

/-- Read the closing brackets of a header and the end of its line. -/
def readHeaderEnd (brackets : Nat) (cs : List Char) : Option (List Char) :=
  if cs.take brackets == List.replicate brackets ']' then endLine false (cs.drop brackets) else none

/-- Read one line, or a value that spans several. -/
def readLine (doc : Document) (cs : List Char) : Option (Document × List Char) :=
  match skipSpaces cs with
  | '[' :: '[' :: rest => do
    let ((path, key), rest) ← readKey maxNames rest
    let entries ← doc.entries.openElement path key
    some ({ header := path ++ [key], entries }, ← readHeaderEnd 2 rest)
  | '[' :: rest => do
    let ((path, key), rest) ← readKey maxNames rest
    let entries ← doc.entries.openTable path key
    some ({ header := path ++ [key], entries }, ← readHeaderEnd 1 rest)
  | rest =>
    match endLine false rest with
    | some rest => some (doc, rest)
    | none => do
      let ((path, key), rest) ← readKey maxNames rest
      match rest with
      | '=' :: rest => do
        let (d, rest) ← readValue rest.length maxNesting (skipSpaces rest)
        let entries ← doc.entries.insertIn doc.header path key d
        some ({ doc with entries }, ← endLine false rest)
      | _ => none

/-- Read up to `n` lines. -/
def readLines : Nat → Document → List Char → Option Document
  | _, doc, [] => some doc
  | 0, _, _ => none
  | n + 1, doc, cs => do
    let (doc, rest) ← readLine doc cs
    readLines n doc rest

/-- Read a whole document. A byte order mark at its start is skipped. -/
def read (text : String) : Option Datum :=
  let cs := match text.toList with
    | '\ufeff' :: rest => rest
    | cs => cs
  (readLines cs.length {} cs).map fun doc => .record (membersOf doc.entries)

/-- In TOML an absent payload is an empty array or table, and a list that gives a record may have items
to spare. -/
def dialect : Datum.Dialect where
  isUnit
    | .list [] | .record [] => true
    | _ => false
  surplusItems := true

end StackMachine.Toml
