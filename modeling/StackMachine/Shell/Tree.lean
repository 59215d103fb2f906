import StackMachine.Shell.Disk
import StackMachine.Shell.Route

/-! Directory trees in memory, and how paths lead through them. A name on the way has to be a directory,
two dots go up, one dot and doubled slashes stay. Above the root of the tree there are directories, but
nothing in them can be named. -/
namespace StackMachine

structure Tree where
  /-- The absolute path of the root. -/
  root : String
  /-- Files, each with the names that lead to it from the root. Their directories exist. -/
  files : List (List String × ByteArray)
  /-- Further directories. -/
  directories : List (List String)

/-- Where a path leads. -/
inductive Place
  | within (names : List String)
  | above
  | nowhere
  deriving DecidableEq, Repr

inductive Item
  | file (contents : ByteArray)
  | directory

namespace Place

def child (name : String) : Place → Place
  | .within names =>
    if name == ".." then if names.isEmpty then .above else .within names.dropLast
    else .within (names ++ [name])
  | .above => if name == ".." then .above else .nowhere
  | .nowhere => .nowhere

end Place

namespace Tree

def fileAt? (t : Tree) (names : List String) : Option ByteArray :=
  (t.files.find? (·.1 == names)).map (·.2)

def isDirectory (t : Tree) (names : List String) : Bool :=
  names.isEmpty || t.directories.any names.isPrefixOf ||
    t.files.any fun f => names.isPrefixOf f.1 && names.length < f.1.length

def item? (t : Tree) : Place → Option Item
  | .within names =>
    match t.fileAt? names with
    | some contents => some (.file contents)
    | none => if t.isDirectory names then some .directory else none
  | .above => some .directory
  | .nowhere => none

/-- A place that has to be a directory. -/
def enter (t : Tree) (p : Place) : Except FileError Place :=
  match t.item? p with
  | some .directory => .ok p
  | some (.file _) => .error .notDirectory
  | none => .error .notFound

/-- Go to a name in a directory, whether or not there is anything. -/
def descend (t : Tree) (p : Place) (name : String) : Except FileError Place :=
  match t.enter p with
  | .ok p => if maxNameSize < name.utf8ByteSize then .error .nameTooLong else .ok (p.child name)
  | .error e => .error e

def walk (t : Tree) : Place → List String → Except FileError Place
  | p, [] => .ok p
  | p, name :: rest =>
    match t.descend p name with
    | .ok p => t.walk p rest
    | .error e => .error e

/-- The start of a path and the way from there. -/
def route (t : Tree) (cwd : List String) (path : String) : Except FileError (Place × Route) :=
  let cs := path.toList
  if cs.contains '\x00' then .error .nulInName
  else if cs.isEmpty then .error .notFound
  else if maxPathSize < path.utf8ByteSize then .error .nameTooLong
  else if path = t.root || (t.root.toList ++ ['/']).isPrefixOf cs then
    .ok (.within [], Route.ofChars ('/' :: cs.drop t.root.length))
  else
    let r := Route.ofChars cs
    .ok (if r.absolute then .above else .within cwd, r)

/-- What stands at a path. -/
def find (t : Tree) (cwd : List String) (path : String) : Except FileError Item :=
  match t.route cwd path with
  | .error e => .error e
  | .ok (start, r) =>
    match t.walk start r.names with
    | .error e => .error e
    | .ok p =>
      match t.item? p with
      | none => .error .notFound
      | some (.file contents) =>
        if r.slash || r.endsInDots then .error .notDirectory else .ok (.file contents)
      | some .directory => .ok .directory

/-- Where a file would be made. A path that ends in dots leads to a directory or nowhere, and one that
ends with a slash asks for a directory. -/
def makePlace (t : Tree) (cwd : List String) (path : String) : Except FileError Place :=
  match t.route cwd path with
  | .error e => .error e
  | .ok (start, r) =>
    if r.endsInDots then
      match t.walk start r.names with
      | .error e => .error e
      | .ok p =>
        match t.enter p with
        | .error e => .error e
        | .ok _ => .error .isDirectory
    else
      match t.walk start r.names.dropLast with
      | .error e => .error e
      | .ok parent =>
        match t.enter parent with
        | .error e => .error e
        | .ok parent =>
          if r.slash then .error .isDirectory
          else
            match t.descend parent r.last with
            | .error e => .error e
            | .ok p =>
              match t.item? p with
              | some .directory => .error .isDirectory
              | _ => .ok p

/-- The absolute path of a directory or file in the tree. -/
def pathOf (t : Tree) (names : List String) : String := names.foldl Disk.join t.root

/-- The tree as seen from a working directory. -/
def disk (t : Tree) (cwd : List String) : Disk where
  ancestors := (List.range (cwd.length + 1)).reverse.map fun n => t.pathOf (cwd.take n)
  has path :=
    match t.find cwd path with
    | .ok _ => true
    | .error _ => false
  read path :=
    match t.find cwd path with
    | .ok (.file contents) => .ok contents
    | .ok .directory => .error .isDirectory
    | .error e => .error e
  refusal path :=
    match t.makePlace cwd path with
    | .ok _ => none
    | .error e => some e

/-- The file that writing `contents` to a path would add or change, with the names that lead to it. -/
def change? (t : Tree) (cwd : List String) (path : String) (contents : ByteArray) :
    Option (List String × ByteArray) :=
  match t.makePlace cwd path with
  | .ok (.within names) => if t.fileAt? names == some contents then none else some (names, contents)
  | _ => none

end Tree
end StackMachine
