import StackMachine.Text.Blank

/-! Program source: instructions one a line, with comments and blank lines between them. Loading a source
leaves the lines that hold an instruction, so indices count instructions only. -/
namespace StackMachine.Source

/-- Cut a line at its first `#` or `//`. -/
def stripComment : List Char → List Char
  | [] => []
  | '#' :: _ => []
  | '/' :: '/' :: _ => []
  | c :: rest => c :: stripComment rest

def lines (source : List Char) : List (List Char) := Text.splitWhere (· == '\n') source

/-- What a line holds besides comment and surrounding blanks. -/
def content (line : List Char) : List Char := Text.trim (stripComment line)

/-- The contents of the lines that have any, in order. -/
def contents (source : List Char) : List (List Char) :=
  ((lines source).map content).filter fun line => !line.isEmpty

def instructionLines (source : String) : List String :=
  (contents source.toList).map String.ofList

/-- A worked example: store 10 + 20, compare it with 30 and return 1 when they agree. -/
def demo : String :=
  "iconst 10      # push 10\n" ++
  "iconst 20      # push 20\n" ++
  "iadd           # 10 + 20 = 30\n" ++
  "istore 0       # locals[0] = 30\n" ++
  "iload 0        # push locals[0]\n" ++
  "iconst 30      # push 30\n" ++
  "if_icmpeq 9    # equal: jump to the branch target\n" ++
  "iconst 0       # not equal: result 0\n" ++
  "goto 10        # skip the branch target\n" ++
  "iconst 1       # branch target: result 1\n" ++
  "ireturn\n"

end StackMachine.Source
