import StackMachine.Text.Decimal

/-! Data: the values that structured text stands for, and how records, alternatives and bounded integers
are read out of them. -/
namespace StackMachine

/-- A value of a structured text. Records keep their members in order. -/
inductive Datum
  | null
  | bool (b : Bool)
  | int (i : Int)
  | text (s : String)
  | list (items : List Datum)
  | record (members : List (String × Datum))
  /-- Anything else, kept as written: it can be passed over, but fits no field. -/
  | other (lexeme : String)
  /-- A number that is written as it should be but has no value: it cannot even be passed over. -/
  | unvalued (lexeme : String)

/-- The points on which the notations for data differ once they are read. -/
structure Datum.Dialect where
  /-- What stands for the absent payload of an alternative that carries none. -/
  isUnit : Datum → Bool
  /-- Whether a list that gives a record by position may be longer than the record. -/
  surplusItems : Bool

namespace Datum

mutual

/-- Whether every number inside has a value. -/
def hasValues : Datum → Bool
  | .unvalued _ => false
  | .list items => itemsHaveValues items
  | .record members => membersHaveValues members
  | _ => true
termination_by structural d => d

def itemsHaveValues : List Datum → Bool
  | [] => true
  | d :: ds => hasValues d && itemsHaveValues ds
termination_by structural ds => ds

def membersHaveValues : List (String × Datum) → Bool
  | [] => true
  | m :: ms => memberHasValues m && membersHaveValues ms
termination_by structural ms => ms

def memberHasValues : String × Datum → Bool
  | (_, d) => hasValues d
termination_by structural m => m

end

/-- The values of the named fields, each absent or present. A record gives them by name, other names are
passed over and a name must not come twice; a list gives them by position, and nobody looks at its items
behind the last field. -/
def fields? (n : Dialect) (names : List String) : Datum → Option (List (Option Datum))
  | .record members =>
    if members.all fun m => names.contains m.1 || m.2.hasValues then
      names.mapM fun name =>
        match members.filter (·.1 == name) with
        | [] => some none
        | [(_, d)] => some (some d)
        | _ => none
    else none
  | .list items =>
    if items.length ≤ names.length || n.surplusItems then
      some (names.zipIdx.map fun field => items[field.2]?)
    else none
  | _ => none

/-- An alternative: its tag, and its payload where one is written. -/
def alternative? : Datum → Option (String × Option Datum)
  | .text tag => some (tag, none)
  | .record [(tag, payload)] => some (tag, some payload)
  | _ => none

/-- The tag of an alternative that carries no payload. -/
def unitTag? (n : Dialect) (d : Datum) : Option String :=
  match d.alternative? with
  | some (tag, none) => some tag
  | some (tag, some payload) => if n.isUnit payload then some tag else none
  | none => none

def word? : Datum → Option Word
  | .int i => if -0x80000000 ≤ i ∧ i < 0x80000000 then some (Int32.ofInt i) else none
  | _ => none

/-- An unsigned 64-bit integer. -/
def size? : Datum → Option Nat
  | .int i => if 0 ≤ i ∧ i < UInt64.size then some i.toNat else none
  | _ => none

def text? : Datum → Option String
  | .text s => some s
  | _ => none

end Datum
end StackMachine
