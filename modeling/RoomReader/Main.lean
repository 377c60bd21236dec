import RoomReader.Homeserver.Mailbox
import RoomReader.Json.Printer
import RoomReader.Server.Upkeep
import RoomReader.Settings.CommandLine
import RoomReader.Startup

namespace RoomReader.Main

/-!
# The program

It starts up from its command line and then reads request lines, each a method and a target. For
every request to the homeserver it writes a line and reads the answer from the next one; a line that
is no answer is a failure. Each response is a line of its own.
-/

def name : String := "room-reader"

def help : String :=
  "Usage: " ++ name ++ String.join (Flag.all.map fun f => " [--" ++ f.name ++ " VALUE]")

/-- What is said about arguments that settings cannot be made of, and the exit code. -/
def stopText : CommandLine.Stop → String × UInt32
  | .displayHelp => (help, 0)
  | .displayVersion => (name, 0)
  | .unknownArgument => ("error: unexpected argument", 2)
  | .valueValidation => ("error: invalid value", 2)
  | .invalidValue => ("error: a value is required", 2)
  | .argumentConflict => ("error: an argument cannot be used multiple times", 2)
  | .tooManyValues => ("error: unexpected value", 2)

def startErrorText (file : String) (e : StartError) : String :=
  "Error: " ++ e.message file ++ (e.cause?.map ("\n\nCaused by:\n    " ++ ·)).getD ""

/-- The variables that the settings may come from. -/
def environment : IO (List (String × String)) :=
  (Flag.all.map Flag.variableName ++ ["PORT"]).filterMapM fun name => do
    return (← IO.getEnv name).map fun value => (name, value)

def writeLine (s : String) : IO Unit := do
  let output ← IO.getStdout
  output.putStrLn s
  output.flush

def readLine : IO (Option String) := do
  let line ← (← IO.getStdin).getLine
  return if line.isEmpty then none else some (Blank.trim line)

/-- Does something again and again, with one answer more each time, until it has all answers. -/
partial def converse {α : Type} (run : Mailbox → α × Mailbox) (answers : List (Option HttpAnswer)) :
    IO α := do
  let (a, mailbox) := run { answers }
  match mailbox.unanswered with
  | none => return a
  | some request =>
    writeLine request.toJson.render
    converse run (answers ++ [(← readLine).bind HttpAnswer.ofText?])

def now : IO Time := return (← IO.monoMsNow : Nat)

/-- Does the upkeep of the seconds that have gone by. -/
def catchUp (hs : Homeserver Mailbox) (began time : Time) (upkeep : Upkeep) (server : Server) :
    IO (Upkeep × Server) := do
  let mut state := (upkeep, server)
  for _ in [upkeep.elapsed : ((time - began) / 1000).toNat] do
    state ← converse (fun mailbox =>
      let (upkeep, server, mailbox) := state.1.tick hs time state.2 mailbox
      ((upkeep, server), mailbox)) []
  return state

/-- Reads requests until there are no more. -/
partial def serve (hs : Homeserver Mailbox) (began : Time) (upkeep : Upkeep) (server : Server) :
    IO Unit := do
  match ← readLine with
  | none => return
  | some line =>
    let time ← now
    let (upkeep, server) ← catchUp hs began time upkeep server
    let words := line.splitOn " "
    match Method.parse? (words.headD ""), Target.parse? (words[1]?.getD "") with
    | some method, some target =>
      let (response, server) ← converse (fun mailbox =>
        let (response, server, mailbox) := server.handle hs time method target mailbox
        ((response, server), mailbox)) []
      writeLine (Json.ofOption Response.toJson response).render
      serve hs began upkeep server
    | _, _ =>
      writeLine Response.malformed.toJson.render
      serve hs began upkeep server

def start (settings : Settings) (startup : Startup) (port : Option String) : IO Unit := do
  let hs := startup.client.homeserver Mailbox.send
  let server ← converse (fun mailbox =>
    match startup.server.loadDirectory.run hs mailbox with
    | (some (_, server), mailbox) => (server, mailbox)
    | (none, mailbox) => (startup.server, mailbox)) []
  writeLine ("http://" ++ settings.bindAddress port ++ settings.routePrefix ++ "/")
  serve hs (← now) {} server

def readFile? (file : String) : IO (Option String) := do
  try return some (← IO.FS.readFile file) catch _ => return none

end RoomReader.Main

open RoomReader in
def main (args : List String) : IO UInt32 := do
  let environment ← Main.environment
  match CommandLine.parse args environment with
  | .error stop =>
    IO.eprintln (Main.stopText stop).1
    return (Main.stopText stop).2
  | .ok settings =>
    match Startup.prepare settings (← Main.readFile? settings.configFile) with
    | .error e =>
      IO.eprintln (Main.startErrorText settings.configFile e)
      return 1
    | .ok startup =>
      Main.start settings startup (environment.lookup "PORT")
      return 0
