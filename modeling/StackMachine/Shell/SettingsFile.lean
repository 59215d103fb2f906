import StackMachine.Data.Toml.Reader
import StackMachine.Settings.Reader
import StackMachine.Shell.CommandError

/-! The settings file: the one that is named, or else the nearest one in the working directory and the
directories above it. -/
namespace StackMachine.SettingsFile

/-- The names that a settings file may have; the first is preferred. -/
def names : List String := ["stackvm.toml", ".stackvmrc.toml"]

/-- The paths where a settings file may be, in order of preference. -/
def candidates (d : Disk) : List String :=
  d.ancestors.flatMap fun directory => names.map (Disk.join directory)

/-- The nearest settings file. -/
def search (d : Disk) : Option String := (candidates d).find? d.has

section

-- What takes the text of a file apart.
variable (toml : String → Option Datum)

/-- The settings that the text of a file gives, not yet validated. -/
def parseWith? (text : String) : Option Settings := (toml text).bind (Settings.ofFile? Toml.dialect)

def readWith (d : Disk) (path : String) : Except CommandError Settings :=
  match d.readText path with
  | .error e => .error (.configUnreadable path e)
  | .ok text =>
    match parseWith? toml text with
    | none => .error (.configUnparsable path)
    | some settings =>
      match settings.validate with
      | .error e => .error (.configInvalid path e)
      | .ok () => .ok settings

/-- The settings of the named file, which has to exist, or of the nearest one, or the defaults. -/
def loadWith (d : Disk) : Option String → Except CommandError Settings
  | some path => if d.has path then readWith toml d path else .error (.configMissing path)
  | none =>
    match search d with
    | some path => readWith toml d path
    | none => .ok {}

end

/-- The settings of the file that is used. -/
def load (d : Disk) (config : Option String) : Except CommandError Settings := loadWith Toml.read d config

end StackMachine.SettingsFile
