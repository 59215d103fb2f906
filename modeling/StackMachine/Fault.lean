import StackMachine.Instruction.Reader

/-! Everything that can go wrong with a program, before it runs or while it does. -/
namespace StackMachine

/-- What an index out of range was meant to name. -/
inductive IndexKind
  | localSlot
  | jumpTarget
  deriving DecidableEq, Repr

def IndexKind.name : IndexKind → String
  | .localSlot => "local slot"
  | .jumpTarget => "jump target"

inductive Fault
  | undecodable (cause : DecodeError)
  | stackUnderflow (required available ip : Nat)
  | divisionByZero (ip : Nat)
  | indexOutOfRange (kind : IndexKind) (index : Word) (limit ip : Nat)
  deriving DecidableEq, Repr

namespace Fault

def isDecodeError : Fault → Bool
  | .undecodable _ => true
  | _ => false

/-- The position of the instruction at fault. -/
def position : Fault → Nat
  | .undecodable cause => cause.position
  | .stackUnderflow _ _ ip | .divisionByZero ip | .indexOutOfRange _ _ _ ip => ip

def message : Fault → String
  | .undecodable cause => "Decode error: " ++ cause.message
  | .stackUnderflow required available ip =>
    "Stack underflow: Expected at least " ++ Text.natText required ++ " operands but found " ++
      Text.natText available ++ " at instruction " ++ Text.natText ip
  | .divisionByZero ip => "Division by zero at instruction " ++ Text.natText ip
  | .indexOutOfRange kind index limit ip =>
    kind.name ++ " " ++ Text.wordText index ++ " out of range (limit " ++ Text.natText limit ++
      ") at instruction " ++ Text.natText ip

end Fault
end StackMachine
