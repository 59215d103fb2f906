import StackMachine.Program.Json
import StackMachine.Run
import StackMachine.Shell.Arguments
import StackMachine.Shell.Event
import StackMachine.Shell.SettingsFile
import StackMachine.Source
import StackMachine.Trace.RingBuffer

/-! The commands: run a program, check program files, print a program, run the worked example. -/
namespace StackMachine

/-- Why a run that was traced in full has no value. -/
inductive TraceFailure
  | fault (cause : Fault)
  | notWritten (cause : OutputError)
  deriving DecidableEq, Repr

namespace Program

/-- Run a program and write its whole trace to an output; nothing runs when not even the heading fits. -/
def runWritten (p : Program) (budget capacity : Nat) (format : TraceFormat) (output : Output) :
    Except (OutputError × Output) (Run Writer) :=
  match Writer.new format output with
  | .error e => .error e
  | .ok w => .ok (p.runTraced budget capacity w)

/-- What a written run comes to: a fault of the program goes before a trace that was cut short. -/
def writtenOutcome (r : Run Writer) : Option (Except TraceFailure (Option Word)) :=
  r.status.outcome?.map fun
    | .error e => .error (.fault e)
    | .ok value =>
      match r.sink.finish with
      | .error e => .error (.notWritten e)
      | .ok () => .ok value

/-- The value of a run that is traced in full, with what was written. There is none yet when the budget
ran out. -/
def fullTrace (p : Program) (budget capacity : Nat) (format : TraceFormat) (output : Output) :
    Output × Option (Except TraceFailure (Option Word)) :=
  match p.runWritten budget capacity format output with
  | .error (e, output) => (output, some (.error (.notWritten e)))
  | .ok r => (r.sink.output, writtenOutcome r)

end Program

/-- What a command has done: what it put out, the file it wrote, and how it ended. It has not ended if
the program it ran used up its budget. -/
structure Effect (α : Type) where
  events : List Event
  file : Option (String × ByteArray) := none
  result : Option (Except CommandError α)

namespace Effect

variable {α β : Type}

/-- Put something out first. -/
def after (events : List Event) (x : Effect α) : Effect α := { x with events := events ++ x.events }

/-- Go on with the result, if there is one. -/
def bind (x : Effect α) (f : α → List Event × Except CommandError β) : Effect β :=
  match x.result with
  | none => { x with result := none }
  | some (.error e) => { x with result := some (.error e) }
  | some (.ok a) =>
    let (events, result) := f a
    { events := x.events ++ events, file := x.file, result := some result }

end Effect

namespace Command

/-! ### Programs -/

/-- Load and decode a program file. -/
def loadProgram (d : Disk) (path : String) : List Event × Except CommandError Program :=
  match d.readText path with
  | .error e => ([], .error (.programUnreadable path e))
  | .ok source =>
    let lines := Source.instructionLines source
    ([.log (.loaded path lines.length)],
      match Program.decode lines with
      | .ok p => .ok p
      | .error e => .error (.programUndecodable path e))

/-! ### Running -/

def outcomeOf (status : Status) : Option (Except CommandError (Option Word)) :=
  status.outcome?.map fun
    | .ok value => .ok value
    | .error e => .error (.fault e)

def startEvent (p : Program) (s : Settings) : Event := .log (.starting p.size s.localsCapacity)

def endEvents (ip : Nat) : Option (Except Fault (Option Word)) → List Event
  | none => []
  | some (.ok (some v)) => [.log (.returned v ip)]
  | some (.ok none) => [.log (.reachedEnd ip)]
  | some (.error e) => [.log (.failed e)]

/-- The events of a run that puts out nothing itself. -/
def runEvents {σ : Type} (p : Program) (s : Settings) (r : Run σ) (during : List Event) : List Event :=
  startEvent p s :: during ++ endEvents r.frame.ip r.status.outcome?

/-- Run with the newest entries kept, and show them if the program fails. -/
def executeRing (budget : Nat) (p : Program) (s : Settings) : Effect (Option Word) :=
  let r := p.runTraced budget s.localsCapacity (RingBuffer.new s.trace.ringSize)
  let shown := match r.status with
    | .failed _ =>
      let (output, _) := r.sink.dump s.trace.format { limit := none }
      [.complain ("Last " ++ Text.natText r.sink.size ++ " instruction(s) before the failure:\n"),
       .err output.written]
    | _ => []
  { events := runEvents p s r [] ++ shown, result := outcomeOf r.status }

def traceResult : Except TraceFailure (Option Word) → Except CommandError (Option Word)
  | .ok value => .ok value
  | .error (.fault e) => .error (.fault e)
  | .error (.notWritten e) => .error (.traceNotWritten e)

/-- The events of a run whose trace goes to standard error: the heading comes before the run starts. -/
def writtenEvents (p : Program) (s : Settings) (r : Run Writer) : List Event :=
  let heading := s.trace.format.header.toUTF8
  let written := r.sink.output.written
  .err heading :: runEvents p s r [.err (written.extract heading.size written.size)]

/-- A run whose trace went to standard error. -/
def writtenToStderr (p : Program) (s : Settings) :
    Except (OutputError × Output) (Run Writer) → Effect (Option Word)
  | .ok r => { events := writtenEvents p s r, result := (Program.writtenOutcome r).map traceResult }
  | .error (e, output) =>
    { events := [.err output.written], result := some (.error (.traceNotWritten e)) }

/-- A run whose trace went to a file. -/
def writtenToFile (p : Program) (s : Settings) (path : String) :
    Except (OutputError × Output) (Run Writer) → Effect (Option Word)
  | .ok r =>
    { events := runEvents p s r []
      file := some (path, r.sink.output.written)
      result := (Program.writtenOutcome r).map traceResult }
  | .error (e, output) =>
    { events := []
      file := some (path, output.written)
      result := some (.error (.traceNotWritten e)) }

/-- Run with every entry written. -/
def executeFull (d : Disk) (budget : Nat) (p : Program) (s : Settings) : Effect (Option Word) :=
  match s.trace.outputPath with
  | none =>
    writtenToStderr p s (p.runWritten budget s.localsCapacity s.trace.format { limit := none })
  | some path =>
    match d.refusal path with
    | some e => { events := [], result := some (.error (.traceNotCreated path e)) }
    | none =>
      writtenToFile p s path (p.runWritten budget s.localsCapacity s.trace.format { limit := none })

/-- Run a program as the settings say. -/
def execute (d : Disk) (budget : Nat) (p : Program) (s : Settings) : Effect (Option Word) :=
  match s.trace.mode with
  | .off =>
    let r := p.run budget s.localsCapacity
    { events := runEvents p s r [], result := outcomeOf r.status }
  | .log =>
    let r := p.runTraced budget s.localsCapacity ({ listening := true } : Journal)
    let steps := r.sink.entries.toList.map fun e => Event.log (.exec e)
    { events := runEvents p s r steps, result := outcomeOf r.status }
  | .ringBuffer => executeRing budget p s
  | .full => executeFull d budget p s

def resultText : Option Word → String
  | some v => "Return value: " ++ Text.wordText v ++ "\n"
  | none => "Program finished without return\n"

/-- Run a program and say what came of it. -/
def executeAndSay (d : Disk) (budget : Nat) (p : Program) (s : Settings) : Effect Unit :=
  (execute d budget p s).bind fun value => ([.say (resultText value)], .ok ())

def runFile (d : Disk) (budget : Nat) (s : Settings) (file : String) : Effect Unit :=
  match loadProgram d file with
  | (events, .error e) => { events, result := some (.error e) }
  | (events, .ok p) => (executeAndSay d budget p s).after events

def runDemo (d : Disk) (budget : Nat) (s : Settings) (shown : Bool) : Effect Unit :=
  match Program.decode (Source.instructionLines Source.demo) with
  | .error e => { events := [], result := some (.error (.demoUndecodable e)) }
  | .ok p => (executeAndSay d budget p s).after (if shown then [.say (p.listing ++ "\n")] else [])

/-! ### Looking at programs -/

def printProgram (d : Disk) (file : String) (json : Bool) : Effect Unit :=
  match loadProgram d file with
  | (events, .error e) => { events, result := some (.error e) }
  | (events, .ok p) =>
    let text := if json then p.toPrettyJson ++ "\n" else p.listing
    { events := events ++ [.say text], result := some (.ok ()) }

/-- What checking one file puts out. -/
def checkFile (d : Disk) (quiet : Bool) (file : String) : List Event :=
  match loadProgram d file with
  | (events, .ok p) =>
    events ++
      if quiet then [] else [.say (file ++ ": " ++ Text.natText p.size ++ " instruction(s)\n")]
  | (events, .error e) => events ++ [.complain (e.brief ++ "\n")]

def passes (d : Disk) (file : String) : Bool := (loadProgram d file).2.isOk

def checkFiles (d : Disk) (files : List String) (quiet : Bool) : Effect Unit :=
  let failed := files.countP fun file => !passes d file
  { events := files.flatMap (checkFile d quiet)
    result := some (if failed = 0 then .ok () else .error (.filesFailed failed files.length)) }

/-- The settings that a command works with: those of the file, under the options of a command that runs
programs. -/
def settings (c : Command) (base : Settings) : Except CommandError Settings :=
  match c with
  | .run _ options | .demo _ options =>
    match options.apply base with
    | .ok s => .ok s
    | .error e => .error (.optionsInvalid e)
  | .check _ _ | .disasm _ _ => .ok base

def perform (d : Disk) (budget : Nat) (s : Settings) : Command → Effect Unit
  | .run file _ => runFile d budget s file
  | .check files quiet => checkFiles d files quiet
  | .disasm file json => printProgram d file json
  | .demo shown _ => runDemo d budget s shown

end Command
end StackMachine
