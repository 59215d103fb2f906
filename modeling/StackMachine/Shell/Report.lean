import StackMachine.Shell.Command

/-! The program as a whole: from the command line and the file system to an exit code, the text of both
streams and a file. -/
namespace StackMachine

structure Report where
  /-- The exit code; there is none if the budget for running ran out. -/
  exit : Option Nat
  stdout : ByteArray := .empty
  stderr : ByteArray := .empty
  /-- The file that is written, with its contents. -/
  file : Option (String × ByteArray) := none

namespace Report

def versionText : String := "stackvm 0.1.0\n"

def helpText : String :=
  "A small stack-based bytecode interpreter\n\n" ++
  "Usage: stackvm [OPTIONS] <COMMAND>\n\n" ++
  "Commands:\n" ++
  "  run     Decode and execute a program file\n" ++
  "  check   Decode a program file without running it\n" ++
  "  disasm  Print the decoded instructions of a program file\n" ++
  "  demo    Run the built-in example program\n"

def ofRefusal : Refusal → Report
  | .usage => { exit := some 2 }
  | .version => { exit := some 0, stdout := versionText.toUTF8 }
  | .help => { exit := some 0, stdout := helpText.toUTF8 }

/-- A failure is reported last, on standard error. -/
def ofError (stderr : ByteArray) (e : CommandError) : Report :=
  { exit := some 1, stderr := stderr ++ e.report.toUTF8 }

def ofEffect (v : Verbosity) (x : Effect Unit) : Report :=
  let stdout := Event.concat (x.events.map Event.stdout)
  let stderr := Event.concat (x.events.map (Event.stderr v))
  match x.result with
  | none => { exit := none, stdout, stderr, file := x.file }
  | some (.ok ()) => { exit := some 0, stdout, stderr, file := x.file }
  | some (.error e) => { ofError stderr e with stdout, file := x.file }

/-- Carry out a command line that was understood; `toml` takes the text of a settings file apart. -/
def ofInvocationWith (toml : String → Option Datum) (d : Disk) (budget : Nat) (i : Invocation) : Report :=
  match SettingsFile.loadWith toml d i.config with
  | .error e => ofError .empty e
  | .ok base =>
    match i.command.settings base with
    | .error e => ofError .empty e
    | .ok s =>
      let v : Verbosity := { verbose := i.verbose, steps := s.trace.mode == .log }
      ofEffect v ((i.command.perform d budget s).after [.log (.settings s)])

def ofInvocation (d : Disk) (budget : Nat) (i : Invocation) : Report := ofInvocationWith Toml.read d budget i

/-- What the program does when it is called with `args`. -/
def ofArguments (d : Disk) (budget : Nat) (args : List String) : Report :=
  match Arguments.parse args with
  | .error e => ofRefusal e
  | .ok i => ofInvocation d budget i

end Report
end StackMachine
