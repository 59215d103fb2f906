import StackMachine.Settings
import StackMachine.Shell.Disk
import StackMachine.Trace.Output

/-! The ways in which a command fails, each with its report. -/
namespace StackMachine

inductive CommandError
  | configMissing (path : String)
  | configUnreadable (path : String) (cause : FileError)
  | configUnparsable (path : String)
  | configInvalid (path : String) (cause : SettingsError)
  | optionsInvalid (cause : SettingsError)
  | programUnreadable (path : String) (cause : FileError)
  | programUndecodable (path : String) (cause : DecodeError)
  | demoUndecodable (cause : DecodeError)
  | traceNotCreated (path : String) (cause : FileError)
  | traceNotWritten (cause : OutputError)
  | fault (cause : Fault)
  | filesFailed (failed total : Nat)
  deriving DecidableEq, Repr

namespace CommandError

def message : CommandError → String
  | .configMissing path => "Config file " ++ path ++ " not found"
  | .configUnreadable path _ => "Failed to read " ++ path
  | .configUnparsable path => "Failed to parse " ++ path ++ ": TOML parse error"
  | .configInvalid path _ => "Invalid configuration in " ++ path
  | .optionsInvalid _ => "Invalid engine options"
  | .programUnreadable path _ => "Failed to read program " ++ path
  | .programUndecodable path _ => "Failed to decode " ++ path
  | .demoUndecodable _ => "Failed to decode the demo program"
  | .traceNotCreated path _ => "Failed to create " ++ path
  | .traceNotWritten _ => "Failed to write trace"
  | .fault cause => cause.message
  | .filesFailed failed total =>
    Text.natText failed ++ " of " ++ Text.natText total ++ " file(s) failed to decode"

/-- What lies behind the error, if that is more than its message says. -/
def cause? : CommandError → Option String
  | .configUnreadable _ cause | .programUnreadable _ cause | .traceNotCreated _ cause =>
    some cause.message
  | .configInvalid _ cause | .optionsInvalid cause => some cause.message
  | .programUndecodable _ cause | .demoUndecodable cause | .fault (.undecodable cause) =>
    some cause.message
  | .traceNotWritten cause => some cause.message
  | _ => none

/-- Message and cause on one line. -/
def brief (e : CommandError) : String :=
  match e.cause? with
  | none => e.message
  | some cause => e.message ++ ": " ++ cause

/-- The last words of a command that fails. -/
def report (e : CommandError) : String :=
  match e.cause? with
  | none => "Error: " ++ e.message ++ "\n"
  | some cause => "Error: " ++ e.message ++ "\n\nCaused by:\n    " ++ cause ++ "\n"

end CommandError
end StackMachine
