import StackMachine.Instruction
import StackMachine.Text.Blank

/-! Reading one instruction from a line: a mnemonic, the operand if the operation has one, nothing more. -/
namespace StackMachine

/-- What is wrong with the operand part of a line. -/
inductive OperandError
  | missing
  | notInteger (token : String) (cause : Text.NumeralError)
  | unexpected (token : String)
  | mismatch
  deriving DecidableEq, Repr

def OperandError.reason : OperandError → String
  | .missing => "missing operand"
  | .notInteger token cause => "'" ++ token ++ "' is not an integer (" ++ cause.message ++ ")"
  | .unexpected token => "unexpected token '" ++ token ++ "'"
  | .mismatch => "operand mismatch"

/-- Why the line at `position` is no instruction. -/
inductive DecodeError
  | unknownOpcode (mnemonic : String) (position : Nat)
  | malformedOperand (mnemonic : String) (position : Nat) (cause : OperandError)
  | emptyInstruction (position : Nat)
  deriving DecidableEq, Repr

namespace DecodeError

def position : DecodeError → Nat
  | .unknownOpcode _ p | .malformedOperand _ p _ | .emptyInstruction p => p

def message : DecodeError → String
  | .unknownOpcode m p => "Unknown opcode '" ++ m ++ "' at instruction " ++ Text.natText p
  | .malformedOperand m p e =>
    "Malformed operand for '" ++ m ++ "' at instruction " ++ Text.natText p ++ ": " ++ e.reason
  | .emptyInstruction p => "Empty instruction at " ++ Text.natText p

end DecodeError

namespace Instruction

/-- The operation that a mnemonic stands for; `bipush` is a second spelling of `iconst`. -/
def opcodeOfWord? (word : String) : Option Opcode :=
  match Opcode.ofMnemonic? word with
  | some op => some op
  | none => if word = "bipush" then some .pushConstant else none

/-- Read the operand that `op` needs off the words behind the mnemonic, and return the words left over. -/
def readOperand (op : Opcode) (rest : List (List Char)) :
    Except OperandError (Option Word × List (List Char)) :=
  if op.hasOperand then
    match rest with
    | [] => .error .missing
    | token :: rest =>
      match Text.readWord token with
      | .error e => .error (.notInteger (String.ofList token) e)
      | .ok v => .ok (some v, rest)
  else .ok (none, rest)

/-- Read the words behind the mnemonic: the operand comes first, and a word too many is reported only
when the operand is good. -/
def readParts (op : Opcode) (rest : List (List Char)) : Except OperandError Instruction :=
  match readOperand op rest with
  | .error e => .error e
  | .ok (_, token :: _) => .error (.unexpected (String.ofList token))
  | .ok (operand, []) =>
    match ofParts? op operand with
    | some i => .ok i
    | none => .error .mismatch

def decodeWords (position : Nat) : List (List Char) → Except DecodeError Instruction
  | [] => .error (.emptyInstruction position)
  | word :: rest =>
    let mnemonic := String.ofList word
    match opcodeOfWord? mnemonic with
    | none => .error (.unknownOpcode mnemonic position)
    | some op =>
      match readParts op rest with
      | .ok i => .ok i
      | .error e => .error (.malformedOperand mnemonic position e)

/-- Read the instruction on `line`, which stands at `position` in its program. -/
def decode (line : String) (position : Nat) : Except DecodeError Instruction :=
  decodeWords position (Text.words line.toList)

end Instruction
end StackMachine
