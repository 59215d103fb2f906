import StackMachine.Shell.Report
import StackMachine.Shell.Route

/-! The executable: look at the files a command line is about, let the library decide, and carry out what
it decided. -/
namespace StackMachine.Main

/-- The number of an error of the operating system, which may come with its sign turned. -/
def errorNumber (code : UInt32) : Nat := min code.toNat (0 - code).toNat

/-- What the operating system said, in the library's words. -/
def fileError (e : IO.Error) : FileError :=
  match e with
  | .noFileOrDirectory _ _ _ => .notFound
  | .inappropriateType _ code details =>
    if errorNumber code == 20 then .notDirectory
    else if errorNumber code == 21 then .isDirectory
    else .other details
  | .invalidArgument _ code _ =>
    if errorNumber code == 22 then .nulInName
    else if errorNumber code == 36 then .nameTooLong
    else .other (toString e)
  | e => .other (toString e)

/-- The directories from `path` upward, the nearest first. -/
def ancestors (path : String) : List String :=
  let names := (path.splitOn "/").filter (· != "")
  (List.range (names.length + 1)).reverse.map fun n => "/" ++ String.intercalate "/" (names.take n)

/-- The files that a command line may read. -/
def filesRead (directories : List String) (i : Invocation) : List String :=
  let settings := match i.config with
    | some path => [path]
    | none => directories.flatMap fun directory => SettingsFile.names.map (Disk.join directory)
  settings ++ match i.command with
    | .run file _ | .disasm file _ => [file]
    | .check files _ => files
    | .demo _ _ => []

/-- What reading a file gives now. -/
def look (path : String) : IO (Except FileError ByteArray) := do
  try return .ok (← IO.FS.readBinFile path) catch e => return .error (fileError e)

/-- Whether there is anything at a path that was looked at. -/
def isThere : Except FileError ByteArray → Bool
  | .error .notFound | .error .notDirectory | .error .nameTooLong | .error .nulInName => false
  | _ => true

/-- Why a file cannot be made, as far as this can be told without making it. -/
def refusal (path : String) : IO (Option FileError) := do
  let cs := path.toList
  let r := Route.ofChars cs
  match ← look path with
  | .ok _ => return none
  | .error e =>
    if e == .isDirectory || e == .nulInName || cs.isEmpty || maxPathSize < path.utf8ByteSize || r.endsInDots then
      return some e
    match ← look (String.ofList (Route.directoryOf cs)) with
    | .ok _ => return some .notDirectory
    | .error .isDirectory =>
      if r.slash then return some .isDirectory
      else if e == .notFound then return none
      else return some e
    | .error e => return some e

/-- Where the trace of a run will be written, if that is a file. -/
def tracePath? (d : Disk) (i : Invocation) : Option String :=
  match SettingsFile.load d i.config with
  | .error _ => none
  | .ok base =>
    match i.command.settings base with
    | .error _ => none
    | .ok s => s.trace.outputPath

/-- The files that matter, read once. -/
def observe (i : Invocation) : IO Disk := do
  let directories := ancestors (← IO.currentDir).toString
  let seen ← (filesRead directories i).mapM fun path => return (path, ← look path)
  let found (path : String) := ((seen.find? (·.1 == path)).map (·.2)).getD (.error .notFound)
  let disk : Disk :=
    { ancestors := directories
      has := fun path => isThere (found path)
      read := found
      refusal := fun _ => none }
  match tracePath? disk i with
  | none => return disk
  | some path =>
    let refused ← refusal path
    return { disk with refusal := fun _ => refused }

/-- Put out a report and write its file. -/
def carryOut (r : Report) : IO UInt32 := do
  (← IO.getStdout).write r.stdout
  (← IO.getStderr).write r.stderr
  match r.file with
  | some (path, contents) => IO.FS.writeBinFile path contents
  | none => pure ()
  return UInt32.ofNat (r.exit.getD 1)

end StackMachine.Main

def main (args : List String) : IO UInt32 := do
  match StackMachine.Arguments.parse args with
  | .error e => StackMachine.Main.carryOut (.ofRefusal e)
  | .ok i =>
    let disk ← StackMachine.Main.observe i
    StackMachine.Main.carryOut (.ofInvocation disk StackMachine.Run.patience i)
