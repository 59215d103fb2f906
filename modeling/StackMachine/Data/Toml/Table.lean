import StackMachine.Data.Datum

/-! The tables of a TOML document while it is read. A table remembers how it came about, because that
decides who may still add to it; values, and tables written in line, are closed. -/
namespace StackMachine.Toml

/-- How a table came about. -/
inductive Origin
  /-- Its own header. -/
  | header
  /-- The header of a table inside it. -/
  | parent
  /-- A dotted key. -/
  | dotted
  deriving DecidableEq

inductive Node
  | value (d : Datum)
  | table (origin : Origin) (entries : List (String × Node))
  /-- The elements of an array of tables, in order. -/
  | tables (elements : List (List (String × Node)))

abbrev Entries := List (String × Node)

mutual

def Node.toDatum : Node → Datum
  | .value d => d
  | .table _ entries => .record (membersOf entries)
  | .tables elements => .list (itemsOf elements)
termination_by structural n => n

def membersOf : List (String × Node) → List (String × Datum)
  | [] => []
  | e :: es => memberOf e :: membersOf es
termination_by structural es => es

def memberOf : String × Node → String × Datum
  | (key, n) => (key, n.toDatum)
termination_by structural e => e

def itemsOf : List (List (String × Node)) → List Datum
  | [] => []
  | es :: rest => .record (membersOf es) :: itemsOf rest
termination_by structural els => els

end

namespace Entries

/-- Change the entry under `key`, or make one behind the others. -/
def update (key : String) (change : Option Node → Option Node) : Entries → Option Entries
  | [] => (change none).map fun n => [(key, n)]
  | (k, n) :: rest =>
    if k = key then (change (some n)).map fun n => (k, n) :: rest
    else (update key change rest).map ((k, n) :: ·)

/-- Change the last of several elements. -/
def updateLast (change : Entries → Option Entries) : List Entries → Option (List Entries)
  | [] => none
  | [es] => (change es).map ([·])
  | es :: rest => (updateLast change rest).map (es :: ·)

/-- Change the table at the end of a path, making tables on the way. The path of a dotted key does not
lead through a table that has its own header. `origin` is that of the table reached so far. -/
def descend (dotted : Bool) (change : Origin → Entries → Option Entries) :
    Origin → List String → Entries → Option Entries
  | origin, [], es => change origin es
  | _, key :: path, es =>
    es.update key fun
      | none =>
        let origin : Origin := if dotted then .dotted else .parent
        (descend dotted change origin path []).map (.table origin)
      | some (.table origin inner) =>
        if dotted && origin == .header then none
        else (descend dotted change origin path inner).map (.table origin)
      | some (.tables elements) =>
        (updateLast (descend dotted change .header path) elements).map .tables
      | some (.value _) => none

/-- Add a value under a dotted key. Its table must have come about by dotted keys, or be the table in
which the key is written, and the name must be new in it. -/
def insert (path : List String) (key : String) (d : Datum) (es : Entries) : Option Entries :=
  es.descend true
    (fun origin es =>
      if !path.isEmpty && origin != .dotted then none
      else es.update key fun
        | none => some (.value d)
        | some _ => none)
    .header path

/-- Open the table of a header. It may exist already, but only because of tables inside it. -/
def openTable (path : List String) (key : String) (es : Entries) : Option Entries :=
  es.descend false
    (fun _ es => es.update key fun
      | none => some (.table .header [])
      | some (.table .parent inner) => some (.table .header inner)
      | some _ => none)
    .header path

/-- Add an element to an array of tables. -/
def openElement (path : List String) (key : String) (es : Entries) : Option Entries :=
  es.descend false
    (fun _ es => es.update key fun
      | none => some (.tables [[]])
      | some (.tables elements) => some (.tables (elements ++ [[]]))
      | some _ => none)
    .header path

/-- Add a value under a dotted key in the table that the last header opened. -/
def insertIn (header path : List String) (key : String) (d : Datum) (es : Entries) : Option Entries :=
  es.descend false (fun _ es => es.insert path key d) .header header

end Entries
end StackMachine.Toml
