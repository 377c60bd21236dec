import RoomReader.Pool.Sweep
import RoomReader.Text.Blank

namespace RoomReader

/-!
# Settings

What a server is started with, and what follows from it.
-/

structure Settings where
  configFile : String := "./config.json"
  numWorkers : Nat := 32
  workerQueueDepth : Nat := 64
  cacheTtlSecs : Nat := 1800
  cacheMinRooms : Nat := 10
  sweepIntervalSecs : Nat := 120
  directoryRefreshSecs : Nat := 3600
  bind : Option String := none
  publicServePrefix : String := "/"
  httpPoolSize : Nat := 8
  proxyUrl : Option String := none
deriving DecidableEq, Repr

namespace Settings

/-- The port that is listened at when none is given. -/
def defaultPort : String := "8000"

/-- The address to listen at, else all addresses at a port. -/
def bindAddress (s : Settings) (port : Option String) : String :=
  s.bind.getD ("0.0.0.0:" ++ port.getD defaultPort)

/-- What stands before every path: nothing, or a slash and a text without slashes at its ends. -/
def routePrefix (s : Settings) : String :=
  let inner := Blank.trimBy (· == '/') s.publicServePrefix.toList
  if inner.isEmpty then "" else String.ofList ('/' :: inner)

/-- Seconds from one sweep to the next. -/
def sweepInterval (s : Settings) : Nat := max s.sweepIntervalSecs 1

/-- Seconds from one update of the directory to the next. -/
def directoryRefresh (s : Settings) : Nat := max s.directoryRefreshSecs 1

def sweepRule (s : Settings) : SweepRule := .ofSeconds s.cacheTtlSecs s.cacheMinRooms

end Settings

end RoomReader
