import StackMachine.Data.Json.Writer
import StackMachine.Text.Column
import StackMachine.Trace.Entry

/-! The two ways to write a trace: aligned columns under a heading, or one JSON record a line. -/
namespace StackMachine

inductive TraceFormat
  | text
  | json
  deriving DecidableEq, Repr

namespace Text

/-- Values in square brackets, with a comma and a space between them. -/
def bracketed (ws : List Word) : String :=
  String.ofList
    ('[' :: List.intercalate [',', ' '] (ws.map fun w => signedDecimal w.toInt) ++ [']'])

end Text

namespace TraceFormat

/-- One row of the columns. Only the last one may have any width. -/
def row (step ip instruction stack locals : String) : String :=
  Text.padLeft 8 step ++ "  " ++ Text.padLeft 6 ip ++ "  " ++ Text.padRight 16 instruction ++ "  " ++
    Text.padRight 24 stack ++ "  " ++ locals ++ "\n"

/-- What stands before the first entry. -/
def header : TraceFormat → String
  | .text =>
    row "STEP" "IP" "INSTRUCTION" "STACK" "LOCALS" ++ String.ofList (List.replicate 80 '─') ++ "\n"
  | .json => ""

/-- The line of one entry, its newline included. -/
def line : TraceFormat → Entry → String
  | .text, e =>
    row (Text.natText e.step) (Text.natText e.ip) e.instruction (Text.bracketed e.stack)
      (Text.bracketed e.locals)
  | .json, e => Json.compact e.toDatum ++ "\n"

end TraceFormat
end StackMachine
