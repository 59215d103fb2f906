import StackMachine.Data.Json.Reader
import StackMachine.Data.Json.Writer
import StackMachine.Program

/-! Programs, instructions and operations as data. An instruction is tagged with its operation; a bare tag
is enough where there is no operand. -/
namespace StackMachine

namespace Opcode

def ofDatum? (d : Datum) : Option Opcode := (d.unitTag? Json.dialect).bind ofName?

end Opcode

namespace Instruction

def toDatum (i : Instruction) : Datum :=
  match i.opcode.operandField, i.operand? with
  | some field, some v => .record [(i.opcode.tag, .record [(field, .int v.toInt)])]
  | _, _ => .text i.opcode.tag

/-- The operand in the payload of an operation that has one. -/
def operandOfDatum? (field : String) (payload : Datum) : Option Word :=
  match payload.fields? Json.dialect [field] with
  | some [some d] => d.word?
  | _ => none

def ofDatum? (d : Datum) : Option Instruction := do
  let (tag, payload) ← d.alternative?
  let op ← Opcode.ofTag? tag
  match op.operandField, payload with
  | some field, some payload => do ofParts? op (some (← operandOfDatum? field payload))
  | some _, none => none
  | none, some payload => if Json.dialect.isUnit payload then ofParts? op none else none
  | none, none => ofParts? op none

end Instruction

namespace Program

def toDatum (p : Program) : Datum :=
  .record [("instructions", .list (p.toList.map Instruction.toDatum))]

def ofDatum? (d : Datum) : Option Program :=
  match d.fields? Json.dialect ["instructions"] with
  | some [some (.list items)] => (items.mapM Instruction.ofDatum?).map ofList
  | _ => none

def toJson (p : Program) : String := Json.compact p.toDatum

def toPrettyJson (p : Program) : String := Json.pretty p.toDatum

def ofJson? (text : String) : Option Program := (Json.read text).bind ofDatum?

end Program
end StackMachine
