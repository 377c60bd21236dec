import RoomReader.Settings.Basic
import RoomReader.Text.Integer

namespace RoomReader

/-!
# The command line

Every setting has a flag, written as `--name value` or `--name=value`, and a variable of the
environment that counts when the flag is not given. The arguments are read from the left, and the
first reason to stop counts. The value of a flag is looked at only when the next flag comes or the
line ends, so that an argument that cannot be understood before that comes first.
-/

inductive Flag where
  | configFile
  | numWorkers
  | workerQueueDepth
  | cacheTtlSecs
  | cacheMinRooms
  | sweepIntervalSecs
  | directoryRefreshSecs
  | bind
  | publicServePrefix
  | httpPoolSize
  | proxyUrl
deriving DecidableEq, Repr

namespace Flag

/-- All flags, in the order in which their variables are looked at. -/
def all : List Flag :=
  [configFile, numWorkers, workerQueueDepth, cacheTtlSecs, cacheMinRooms, sweepIntervalSecs,
    directoryRefreshSecs, bind, publicServePrefix, httpPoolSize, proxyUrl]

def name : Flag → String
  | configFile => "config-file"
  | numWorkers => "num-workers"
  | workerQueueDepth => "worker-queue-depth"
  | cacheTtlSecs => "cache-ttl-secs"
  | cacheMinRooms => "cache-min-rooms"
  | sweepIntervalSecs => "sweep-interval-secs"
  | directoryRefreshSecs => "directory-refresh-secs"
  | bind => "bind"
  | publicServePrefix => "public-serve-prefix"
  | httpPoolSize => "http-pool-size"
  | proxyUrl => "proxy-url"

def ofName? (name : String) : Option Flag := all.find? (·.name == name)

/-- The variable of a flag: its name in capitals, with underscores, after `ROOMVIEW_`. -/
def variableName (f : Flag) : String :=
  "ROOMVIEW_" ++ f.name.map fun c => if c == '-' then '_' else c.toUpper

end Flag

namespace CommandLine

/-- Why the settings are not read to the end. -/
inductive Stop where
  | unknownArgument
  | valueValidation
  | invalidValue
  | argumentConflict
  | tooManyValues
  | displayHelp
  | displayVersion
deriving DecidableEq, Repr

def count (value : String) : Except Stop Nat :=
  match Integer.count? value with
  | some n => .ok n
  | none => .error .valueValidation

/-- Gives one setting a value. -/
def set (s : Settings) (f : Flag) (value : String) : Except Stop Settings :=
  match f with
  | .configFile =>
    if value.isEmpty then .error .invalidValue else .ok { s with configFile := value }
  | .numWorkers => return { s with numWorkers := ← count value }
  | .workerQueueDepth => return { s with workerQueueDepth := ← count value }
  | .cacheTtlSecs => return { s with cacheTtlSecs := ← count value }
  | .cacheMinRooms => return { s with cacheMinRooms := ← count value }
  | .sweepIntervalSecs => return { s with sweepIntervalSecs := ← count value }
  | .directoryRefreshSecs => return { s with directoryRefreshSecs := ← count value }
  | .bind => .ok { s with bind := some value }
  | .publicServePrefix => .ok { s with publicServePrefix := value }
  | .httpPoolSize => return { s with httpPoolSize := ← count value }
  | .proxyUrl => .ok { s with proxyUrl := some value }

/-- How far the arguments have been read. -/
structure Progress where
  settings : Settings := {}
  given : List Flag := []
  /-- The last flag, with its value if that has come. -/
  pending : Option (Flag × Option String) := none

/-- Takes in a flag with its value; no flag may come twice. -/
def Progress.give (p : Progress) (f : Flag) (value : String) : Except Stop Progress := do
  if p.given.contains f then throw .argumentConflict
  return { settings := ← set p.settings f value, given := f :: p.given }

/-- Takes in the pending flag. -/
def Progress.settle (p : Progress) : Except Stop Progress :=
  match p.pending with
  | none => .ok p
  | some (_, none) => .error .invalidValue
  | some (f, some value) => p.give f value

/-- What an argument is, by how it begins. -/
inductive Argument where
  | separator
  | long (name : String) (value : Option String)
  | short (letter : Char)
  | plain

def Argument.ofText (s : String) : Argument :=
  match s.toList with
  | ['-', '-'] => separator
  | '-' :: '-' :: rest =>
    let name := String.ofList (rest.takeWhile (· ≠ '='))
    match rest.dropWhile (· ≠ '=') with
    | [] => long name none
    | _ :: value => long name (some (String.ofList value))
  | '-' :: letter :: _ => short letter
  | _ => plain

/-- One argument other than the separator. -/
def Progress.take (p : Progress) (arg : String) : Except Stop Progress :=
  match Argument.ofText arg with
  | .separator => .ok p
  | .long "help" none => do let _ ← p.settle; throw .displayHelp
  | .long "version" none => do let _ ← p.settle; throw .displayVersion
  | .long "help" (some _) => throw .tooManyValues
  | .long "version" (some _) => throw .tooManyValues
  | .long name value =>
    match Flag.ofName? name, value with
    | none, _ => throw .unknownArgument
    | some f, none => return { ← p.settle with pending := some (f, none) }
    | some f, some value => do (← p.settle).give f value
  | .short 'h' => do let _ ← p.settle; throw .displayHelp
  | .short 'V' => do let _ ← p.settle; throw .displayVersion
  | .short _ => throw .unknownArgument
  | .plain =>
    match p.pending with
    | some (f, none) => .ok { p with pending := some (f, some arg) }
    | _ => throw .unknownArgument

/-- Nothing may come after the separator. -/
def Progress.takeAll (p : Progress) : List String → Except Stop Progress
  | [] => p.settle
  | "--" :: rest => if rest.isEmpty then p.settle else throw .unknownArgument
  | arg :: rest => do (← p.take arg).takeAll rest

/-- Takes the values of flags that were not given from the environment. -/
def Progress.takeVariables (p : Progress) (environment : List (String × String)) :
    List Flag → Except Stop Settings
  | [] => .ok p.settings
  | f :: rest =>
    match environment.lookup f.variableName with
    | none => p.takeVariables environment rest
    | some value =>
      if p.given.contains f then p.takeVariables environment rest
      else do
        let p ← p.give f value
        p.takeVariables environment rest

/-- The settings that the arguments and the environment make. -/
def parse (args : List String) (environment : List (String × String)) : Except Stop Settings := do
  (← ({} : Progress).takeAll args).takeVariables environment Flag.all

end CommandLine

end RoomReader
