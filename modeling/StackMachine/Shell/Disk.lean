/-! What a command can ask of the file system, by path, and the answers it can get. -/
namespace StackMachine

/-- Why a file cannot be read or made. -/
inductive FileError
  | notFound
  | notDirectory
  | isDirectory
  | nameTooLong
  | nulInName
  | notText
  | other (description : String)
  deriving DecidableEq, Repr

def FileError.message : FileError → String
  | .notFound => "No such file or directory (os error 2)"
  | .notDirectory => "Not a directory (os error 20)"
  | .isDirectory => "Is a directory (os error 21)"
  | .nameTooLong => "File name too long (os error 36)"
  | .nulInName => "file name contained an unexpected NUL byte"
  | .notText => "stream did not contain valid UTF-8"
  | .other description => description

/-- The file system as it stands when a command starts. -/
structure Disk where
  /-- The working directory and the directories above it, the nearest first. -/
  ancestors : List String
  /-- Whether there is anything at a path. -/
  has : String → Bool
  read : String → Except FileError ByteArray
  /-- Why no file can be made or emptied at a path, if so. -/
  refusal : String → Option FileError

namespace Disk

/-- Read a whole file as text. -/
def readText (d : Disk) (path : String) : Except FileError String :=
  match d.read path with
  | .error e => .error e
  | .ok bytes =>
    match String.fromUTF8? bytes with
    | some text => .ok text
    | none => .error .notText

/-- The text of a file is the one that its bytes encode. -/
theorem readText_eq_ok_iff {d : Disk} {path text : String} :
    d.readText path = .ok text ↔ d.read path = .ok text.toUTF8 := by
  unfold readText String.fromUTF8?
  cases d.read path with
  | error e => simp
  | ok bytes =>
    by_cases hvalid : bytes.IsValidUTF8
    · simp [hvalid, ← String.toByteArray_inj, String.fromUTF8]
    · simp only [hvalid, dite_false, reduceCtorEq, Except.ok.injEq, false_iff]
      rintro rfl
      exact hvalid text.isValidUTF8

/-- The path of `name` in a directory. -/
def join (directory name : String) : String :=
  if directory.toList.getLast? = some '/' then directory ++ name else directory ++ "/" ++ name

end Disk
end StackMachine
