import StackMachine.Settings

/-! The command line taken apart: options that hold for every command, the command, its own options and
its files. -/
namespace StackMachine

inductive Command
  | run (file : String) (options : EngineOptions)
  | check (files : List String) (quiet : Bool)
  | disasm (file : String) (json : Bool)
  | demo (shown : Bool) (options : EngineOptions)
  deriving DecidableEq, Repr

structure Invocation where
  verbose : Bool
  /-- The settings file to use instead of searching for one. -/
  config : Option String
  command : Command
  deriving DecidableEq, Repr

/-- Why there is no command to run. -/
inductive Refusal
  | usage
  | version
  | help
  deriving DecidableEq, Repr

namespace Arguments

/-- What an option takes. -/
inductive Taking
  | nothing
  | path
  | size
  | mode
  | format
  deriving DecidableEq, Repr

/-- Whether a value is one that the option takes. -/
def Taking.accepts (t : Taking) (value : String) : Bool :=
  match t with
  | .nothing => false
  | .path => value != ""
  | .size => (Text.readSize value.toList).isOk
  | .mode => (TraceMode.ofName? value).isSome
  | .format => (TraceFormat.ofName? value).isSome

/-- The options that are known at some point of the command line. -/
structure Level where
  options : List (String × Taking)
  /-- Whether the version can be asked for here. -/
  version : Bool
  /-- Whether the first word that belongs to no option ends this level. -/
  stopsAtWord : Bool

/-- What was given at one level, in order. -/
structure Given where
  options : List (String × String) := []
  words : List String := []
  deriving DecidableEq, Repr

/-- Note an option; each may come once. -/
def Given.add (g : Given) (name value : String) : Except Refusal Given :=
  if g.options.any (·.1 == name) then .error .usage
  else .ok { g with options := g.options ++ [(name, value)] }

def Given.value? (g : Given) (name : String) : Option String :=
  (g.options.find? (·.1 == name)).map (·.2)

def Given.has (g : Given) (name : String) : Bool := (g.value? name).isSome

/-- Whether a word can be the value of the option before it. A single dash can. -/
def isWord (arg : String) : Bool := arg == "-" || arg.toList.head? != some '-'

/-- Options of one letter, several of which may share a dash. -/
def readShort (l : Level) : Given → List Char → Except Refusal Given
  | g, [] => .ok g
  | g, c :: rest =>
    if c == 'v' then
      match g.add "verbose" "" with
      | .ok g => readShort l g rest
      | .error e => .error e
    else if c == 'h' then .error .help
    else if c == 'V' && l.version then .error .version
    else .error .usage

/-- An option without a value behind an equals sign, and the arguments behind it. -/
def readLong (l : Level) (g : Given) (name : String) (rest : List String) :
    Except Refusal (Given × List String) :=
  if name == "help" then .error .help
  else if name == "version" && l.version then .error .version
  else
    match l.options.find? (·.1 == name), rest with
    | some (_, .nothing), rest => (g.add name "").map (·, rest)
    | some (_, taking), value :: rest =>
      if isWord value && taking.accepts value then (g.add name value).map (·, rest)
      else .error .usage
    | _, _ => .error .usage

/-- An option with a value behind an equals sign. -/
def readAttached (l : Level) (g : Given) (name value : String) : Except Refusal Given :=
  match l.options.find? (·.1 == name) with
  | some (_, taking) => if taking.accepts value then g.add name value else .error .usage
  | none => .error .usage

/-- Read arguments up to the end of the level; those behind it are returned. The first argument bounds
the number of arguments read. -/
def readLevel (l : Level) : Nat → Given → List String → Except Refusal (Given × List String)
  | _, g, [] => .ok (g, [])
  | 0, _, _ => .error .usage
  | n + 1, g, arg :: rest =>
    match arg.toList with
    | ['-', '-'] =>
      if l.stopsAtWord then .error .usage else .ok ({ g with words := g.words ++ rest }, [])
    | '-' :: '-' :: option =>
      match option.span (· != '=') with
      | (name, []) =>
        match readLong l g (String.ofList name) rest with
        | .ok (g, rest) => readLevel l n g rest
        | .error e => .error e
      | (name, _ :: value) =>
        match readAttached l g (String.ofList name) (String.ofList value) with
        | .ok g => readLevel l n g rest
        | .error e => .error e
    | '-' :: c :: cs =>
      match readShort l g (c :: cs) with
      | .ok g => readLevel l n g rest
      | .error e => .error e
    | _ =>
      if l.stopsAtWord then .ok (g, arg :: rest)
      else readLevel l n { g with words := g.words ++ [arg] } rest

def sharedOptions : List (String × Taking) := [("verbose", .nothing), ("config", .path)]

def engineOptions : List (String × Taking) :=
  [("locals", .size), ("trace", .mode), ("trace-file", .path), ("trace-format", .format),
   ("ring-size", .size)]

def topLevel : Level := { options := sharedOptions, version := true, stopsAtWord := true }

def commandLevel (options : List (String × Taking)) : Level :=
  { options := sharedOptions ++ options, version := false, stopsAtWord := false }

def size? (value : String) : Option Nat := (Text.readSize value.toList).toOption

def engine (g : Given) : EngineOptions where
  locals := (g.value? "locals").bind size?
  mode := (g.value? "trace").bind TraceMode.ofName?
  outputPath := g.value? "trace-file"
  format := (g.value? "trace-format").bind TraceFormat.ofName?
  ringSize := (g.value? "ring-size").bind size?

/-- The options of each command by its name. -/
def commandOptions : String → Option (List (String × Taking))
  | "run" => some engineOptions
  | "check" => some [("quiet", .nothing)]
  | "disasm" => some [("json", .nothing)]
  | "demo" => some (("show", .nothing) :: engineOptions)
  | _ => none

/-- The command that a name and what was given with it stand for. File names are not empty. -/
def command? (name : String) (g : Given) : Option Command :=
  if g.words.contains "" then none
  else
    match name, g.words with
    | "run", [file] => some (.run file (engine g))
    | "check", file :: files => some (.check (file :: files) (g.has "quiet"))
    | "disasm", [file] => some (.disasm file (g.has "json"))
    | "demo", [] => some (.demo (g.has "show") (engine g))
    | _, _ => none

/-- What is asked of the help command has to be a command. -/
def helpOn : List String → Refusal
  | [] => .help
  | name :: rest =>
    if (name == "help" || (commandOptions name).isSome) && rest.isEmpty then .help else .usage

/-- Read the whole command line. An option that holds for every command may stand before or behind the
name of the command; where a value is given in both places the second one counts. -/
def parse (args : List String) : Except Refusal Invocation :=
  match readLevel topLevel args.length {} args with
  | .error e => .error e
  | .ok (_, []) => .error .usage
  | .ok (_, "help" :: rest) => .error (helpOn rest)
  | .ok (top, name :: rest) =>
    match commandOptions name with
    | none => .error .usage
    | some options =>
      match readLevel (commandLevel options) rest.length {} rest with
      | .error e => .error e
      | .ok (g, _) =>
        match command? name g with
        | none => .error .usage
        | some command =>
          .ok
            { verbose := top.has "verbose" || g.has "verbose"
              config := g.value? "config" <|> top.value? "config"
              command }

end Arguments
end StackMachine
