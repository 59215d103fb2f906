import StackMachine.Trace.Format

/-! Settings of the machine in three layers: defaults, what a settings file gives, and the options of the
command line, which win. -/
namespace StackMachine

/-- What becomes of the trace of a run. -/
inductive TraceMode
  | off
  | log
  | ringBuffer
  | full
  deriving DecidableEq, Repr

def TraceMode.all : List TraceMode := [.off, .log, .ringBuffer, .full]

def TraceMode.name : TraceMode → String
  | .off => "off"
  | .log => "log"
  | .ringBuffer => "ring-buffer"
  | .full => "full"

def TraceMode.ofName? (s : String) : Option TraceMode := TraceMode.all.find? (·.name == s)

def TraceFormat.all : List TraceFormat := [.text, .json]

def TraceFormat.name : TraceFormat → String
  | .text => "text"
  | .json => "json"

def TraceFormat.ofName? (s : String) : Option TraceFormat := TraceFormat.all.find? (·.name == s)

structure TraceSettings where
  mode : TraceMode := .off
  ringSize : Nat := 100
  /-- Where a full trace goes; without a path it goes to standard error. -/
  outputPath : Option String := none
  format : TraceFormat := .text
  deriving DecidableEq, Repr

structure Settings where
  localsCapacity : Nat := 10
  trace : TraceSettings := {}
  deriving DecidableEq, Repr

inductive SettingsError
  | noLocals
  | emptyRing
  deriving DecidableEq, Repr

def SettingsError.message : SettingsError → String
  | .noLocals => "locals_capacity must be at least 1"
  | .emptyRing => "trace.ring_buffer_size must be at least 1"

/-- Refuse sizes of zero, the locals first. -/
def Settings.validate (s : Settings) : Except SettingsError Unit :=
  if s.localsCapacity = 0 then .error .noLocals
  else if s.trace.ringSize = 0 then .error .emptyRing
  else .ok ()

/-- The options of the command line that override settings. -/
structure EngineOptions where
  locals : Option Nat := none
  mode : Option TraceMode := none
  outputPath : Option String := none
  format : Option TraceFormat := none
  ringSize : Option Nat := none
  deriving DecidableEq, Repr

namespace EngineOptions

/-- Each setting from its option if that is given, else from `base`. -/
def merge (o : EngineOptions) (base : Settings) : Settings where
  localsCapacity := o.locals.getD base.localsCapacity
  trace :=
    { mode := o.mode.getD base.trace.mode
      ringSize := o.ringSize.getD base.trace.ringSize
      outputPath := o.outputPath <|> base.trace.outputPath
      format := o.format.getD base.trace.format }

def apply (o : EngineOptions) (base : Settings) : Except SettingsError Settings :=
  let merged := o.merge base
  match merged.validate with
  | .ok () => .ok merged
  | .error e => .error e

end EngineOptions
end StackMachine
