import StackMachine.Settings
import StackMachine.Text.Quoted

/-! What a command puts out: text on either stream, and log lines, which are shown or not depending on
what the user asked to see. -/
namespace StackMachine

/-- Something worth noting in the log. -/
inductive LogLine
  | settings (s : Settings)
  | loaded (path : String) (instructions : Nat)
  | starting (instructions locals : Nat)
  | exec (e : Entry)
  | returned (value : Word) (ip : Nat)
  | reachedEnd (ip : Nat)
  | failed (fault : Fault)
  deriving DecidableEq, Repr

/-- Which log lines the user asked to see. -/
structure Verbosity where
  /-- All but the steps of the machine. -/
  verbose : Bool
  /-- All of the machine. -/
  steps : Bool
  deriving DecidableEq, Repr

namespace LogLine

inductive Level
  | debug
  | trace
  deriving DecidableEq, Repr

def Level.name : Level → String
  | .debug => "DEBUG"
  | .trace => "TRACE"

def level : LogLine → Level
  | .exec _ => .trace
  | _ => .debug

/-- Whether the line comes from the machine itself. -/
def ofMachine : LogLine → Bool
  | .settings _ | .loaded _ _ => false
  | _ => true

/-- The part of the program that speaks. -/
def source : LogLine → String
  | .settings _ => "stackvm"
  | .loaded _ _ => "stackvm::loader"
  | .exec _ => "stackvm_core::trace"
  | _ => "stackvm_core::interpreter"

def modeText : TraceMode → String
  | .off => "Off"
  | .log => "Log"
  | .ringBuffer => "RingBuffer"
  | .full => "Full"

def formatText : TraceFormat → String
  | .text => "Text"
  | .json => "Json"

def pathText : Option String → String
  | none => "None"
  | some path => "Some(" ++ Text.quoted path ++ ")"

/-- A record with its name and fields. -/
def structText (name : String) (fields : List (String × String)) : String :=
  name ++ " \x7b " ++ String.intercalate ", " (fields.map fun f => f.1 ++ ": " ++ f.2) ++ " \x7d"

def settingsText (s : Settings) : String :=
  structText "VmConfig"
    [("locals_capacity", Text.natText s.localsCapacity),
     ("trace", structText "TraceConfig"
        [("mode", modeText s.trace.mode), ("ring_buffer_size", Text.natText s.trace.ringSize),
         ("output_path", pathText s.trace.outputPath), ("format", formatText s.trace.format)])]

/-- The message and its fields. -/
def message : LogLine → String × List (String × String)
  | .settings s => ("Engine configuration", [("engine", settingsText s)])
  | .loaded path n => ("Loaded program", [("path", path), ("instructions", Text.natText n)])
  | .starting n locals =>
    ("starting execution", [("instructions", Text.natText n), ("locals", Text.natText locals)])
  | .exec e =>
    ("exec",
      [("step", Text.natText e.step), ("ip", Text.natText e.ip), ("instruction", e.instruction),
       ("stack", Text.bracketed e.stack), ("locals", Text.bracketed e.locals)])
  | .returned v ip => ("returned", [("value", Text.wordText v), ("ip", Text.natText ip)])
  | .reachedEnd ip => ("reached end of program", [("ip", Text.natText ip)])
  | .failed e => ("execution failed", [("error", e.message)])

/-- The line as it is shown, except for the time at its beginning, which no run of the program decides. -/
def text (l : LogLine) : String :=
  let (message, fields) := l.message
  l.level.name ++ " " ++ l.source ++ ": " ++ message ++
    String.join (fields.map fun f => " " ++ f.1 ++ "=" ++ f.2) ++ "\n"

def visible (v : Verbosity) (l : LogLine) : Bool :=
  (v.steps && l.ofMachine) || (v.verbose && l.level == .debug)

end LogLine

/-- One piece of what a command puts out. -/
inductive Event
  | out (bytes : ByteArray)
  | err (bytes : ByteArray)
  | log (line : LogLine)

namespace Event

def say (text : String) : Event := .out text.toUTF8

def complain (text : String) : Event := .err text.toUTF8

/-- What the event adds to standard output. -/
def stdout : Event → ByteArray
  | .out bytes => bytes
  | _ => .empty

/-- What the event adds to standard error. -/
def stderr (v : Verbosity) : Event → ByteArray
  | .out _ => .empty
  | .err bytes => bytes
  | .log line => if line.visible v then line.text.toUTF8 else .empty

/-- Everything put together, in order. -/
def concat (pieces : List ByteArray) : ByteArray := pieces.foldl (· ++ ·) .empty

end Event
end StackMachine
