import StackMachine.Text.Blank

/-! Paths taken apart at their slashes, and how long names and paths may be. -/
namespace StackMachine

/-- The longest name, in bytes. -/
def maxNameSize : Nat := 255

/-- The longest path, in bytes. -/
def maxPathSize : Nat := 4095

/-- A path taken apart. -/
structure Route where
  absolute : Bool
  /-- The names and double dots on the way. -/
  names : List String
  /-- The last piece between slashes, which may be a dot. -/
  last : String
  /-- Whether a slash follows the last piece. -/
  slash : Bool
  deriving DecidableEq, Repr

namespace Route

def pieces (path : List Char) : List String :=
  ((Text.splitWhere (· == '/') path).filter (!·.isEmpty)).map String.ofList

def ofChars (path : List Char) : Route where
  absolute := path.head? == some '/'
  names := (pieces path).filter (· != ".")
  last := (pieces path).getLast?.getD "."
  slash := path.getLast? == some '/'

/-- Whether the path ends in dots, which always name a directory. -/
def endsInDots (r : Route) : Bool := r.last == "." || r.last == ".."

/-- The path of the directory in which the last piece of `path` stands. -/
def directoryOf (path : List Char) : List Char :=
  match (path.reverse.dropWhile (· == '/')).dropWhile (· != '/') with
  | [] => ['.']
  | rest => rest.reverse

end Route

end StackMachine
