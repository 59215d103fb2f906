import StackMachine.Instruction.Reader
import StackMachine.Text.Column

/-! Programs: finite sequences of instructions, read from lines and printed as numbered listings. -/
namespace StackMachine

structure Program where
  instructions : Array Instruction
  deriving DecidableEq, Repr

namespace Program

def empty : Program := ⟨#[]⟩

def ofList (is : List Instruction) : Program := ⟨is.toArray⟩

def push (p : Program) (i : Instruction) : Program := ⟨p.instructions.push i⟩

def size (p : Program) : Nat := p.instructions.size

def isEmpty (p : Program) : Bool := p.instructions.isEmpty

/-- The instruction at `ip`; there is none at or behind the end. -/
def get? (p : Program) (ip : Nat) : Option Instruction := p.instructions[ip]?

def toList (p : Program) : List Instruction := p.instructions.toList

@[simp] theorem toList_ofList (is : List Instruction) : (ofList is).toList = is := rfl

@[simp] theorem ofList_toList (p : Program) : ofList p.toList = p := rfl

@[simp] theorem toList_push (p : Program) (i : Instruction) : (p.push i).toList = p.toList ++ [i] := by
  simp [toList, push]

@[simp] theorem length_toList (p : Program) : p.toList.length = p.size := rfl

theorem getElem?_toList (p : Program) (ip : Nat) : p.toList[ip]? = p.get? ip := Array.getElem?_toList

theorem get?_eq_none_iff {p : Program} {ip : Nat} : p.get? ip = none ↔ p.size ≤ ip := by
  simp [get?, size]

/-- Read one instruction a line, in order, up to the first line that is none. -/
def decode (lines : List String) : Except DecodeError Program :=
  match lines.zipIdx.mapM fun line => Instruction.decode line.1 line.2 with
  | .ok is => .ok (ofList is)
  | .error e => .error e

/-- The number of digits of the last index. -/
def indexWidth (p : Program) : Nat := (Text.decimal (p.size - 1)).length

def listingLine (width : Nat) (line : Instruction × Nat) : String :=
  Text.padLeft width (Text.natText line.2) ++ ": " ++ line.1.text ++ "\n"

/-- One line an instruction, with right-aligned indices. -/
def listing (p : Program) : String :=
  String.join (p.toList.zipIdx.map (listingLine p.indexWidth))

end Program
end StackMachine
