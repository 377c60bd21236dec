import RoomReader.Server.Basic

namespace RoomReader

/-!
# Upkeep

While a server runs its pool is swept and its directory replaced, each again and again after a
fixed number of seconds.
-/

structure Upkeep where
  /-- Seconds since the upkeep began. -/
  elapsed : Nat := 0
  /-- An update that never comes back is the last one. -/
  updating : Bool := true
deriving DecidableEq, Repr

namespace Upkeep

variable {σ : Type}

/-- Whether something is done that is due every `interval` seconds. -/
def isDue (u : Upkeep) (interval : Nat) : Bool := u.elapsed % interval == 0

def sweep (hs : Homeserver σ) (now : Time) (u : Upkeep) (srv : Server) (s : σ) : Server × σ :=
  if u.isDue srv.settings.sweepInterval then
    let (_, pool, s) := srv.pool.sweep hs srv.settings.sweepRule now s
    ({ srv with pool }, s)
  else (srv, s)

def update (hs : Homeserver σ) (u : Upkeep) (srv : Server) (s : σ) : Upkeep × Server × σ :=
  if u.updating && u.isDue srv.settings.directoryRefresh then
    match srv.updateDirectory.run hs s with
    | (some srv, s) => (u, srv, s)
    | (none, s) => ({ u with updating := false }, srv, s)
  else (u, srv, s)

/-- One more second goes by. -/
def tick (hs : Homeserver σ) (now : Time) (u : Upkeep) (srv : Server) (s : σ) :
    Upkeep × Server × σ :=
  let u := { u with elapsed := u.elapsed + 1 }
  let (srv, s) := u.sweep hs now srv s
  u.update hs srv s

end Upkeep

end RoomReader
