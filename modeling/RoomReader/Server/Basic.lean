import RoomReader.AliasCache
import RoomReader.Directory
import RoomReader.Pool.Basic
import RoomReader.Server.Page
import RoomReader.Server.Response
import RoomReader.Server.Route
import RoomReader.Server.Target
import RoomReader.Settings.Basic

namespace RoomReader

/-!
# The server

A request is routed by its path and method, its texts are read, and the page is made from the
directory, the alias cache and the pool. A room is loaded before any job on it.
-/

structure Server where
  settings : Settings
  mediaBase : String
  pool : Pool
  directory : Directory := {}
  aliases : AliasCache := {}

namespace Server

variable {σ : Type}

def ofSettings (settings : Settings) (mediaBase : String) : Server :=
  { settings, mediaBase, pool := .ofSize settings.numWorkers }

/-- The place that is served. -/
def place (srv : Server) : Place := .ofText srv.settings.routePrefix

def rooms (srv : Server) : RoomSettings := { mediaBase := srv.mediaBase }

/-- The first load of the directory. -/
def loadDirectory (srv : Server) : Exchange (Nat × Server) := do
  let (count, directory) ← srv.directory.load srv.mediaBase
  return (count, { srv with directory })

/-- Replaces the directory, unless the homeserver fails. -/
def updateDirectory (srv : Server) : Exchange Server := do
  let (_, directory) ← srv.directory.update srv.mediaBase
  return { srv with directory }

/-- How far back from a permalink's event its page starts. -/
def permalinkOffset : Int := 10

/-- The path of a room's page. -/
def roomPath (place room : String) : String := place ++ "/room/" ++ Form.encode room

/-- The path of a room's page that shows an event a little below the top. -/
def permalinkPath (place room event : String) : String :=
  roomPath place room ++ "?" ++ Form.encodePairs
    [("anchor", event), ("offset", toString (-permalinkOffset)), ("highlight", event)]

def isRoomId (id : String) : Bool := id.toList.head? == some '!'

/-- Loads a room unless it is cached, and then does a job on it. -/
def roomJob (hs : Homeserver σ) (now : Time) (job : Job) (srv : Server) (s : σ) :
    Except RequestError job.Reply × Server × σ :=
  if isRoomId job.room then
    match srv.pool.request hs srv.rooms now (.initialSync job.room) s with
    | (.error e, pool, s) => (.error (.room e), { srv with pool }, s)
    | (.ok _, pool, s) =>
      let (reply, pool, s) := pool.request hs srv.rooms now job s
      (reply.mapError .room, { srv with pool }, s)
  else (.error (.invalidRoomId job.room), srv, s)

/-- The page of a room job's reply. -/
def roomPage (hs : Homeserver σ) (now : Time) (job : Job) (page : job.Reply → Json) (srv : Server)
    (s : σ) : Response × Server × σ :=
  let (reply, srv, s) := srv.roomJob hs now job s
  match reply with
  | .ok reply => (.page (page reply), srv, s)
  | .error e => (.ofError e, srv, s)

/-- The room that an alias leads to, by the cache or else by the homeserver. Only a room that has
an id is remembered. -/
def resolveAlias (hs : Homeserver σ) (now : Time) (roomAlias : String) (srv : Server) (s : σ) :
    Option (Except RequestError String) × Server × σ :=
  match srv.aliases.lookup roomAlias AliasCache.ttl now with
  | (some room, aliases) => (some (.ok room), { srv with aliases }, s)
  | (none, aliases) =>
    let srv := { srv with aliases }
    match (Exchange.call (.resolveAlias roomAlias)).run hs s with
    | (none, s) => (none, srv, s)
    | (some (.error e), s) => (some (.error (.aliasNotFound roomAlias e.describe)), srv, s)
    | (some (.ok answer), s) =>
      if answer.roomId.isEmpty then
        (some (.error (.aliasNotFound roomAlias "The homeserver returned no room")), srv, s)
      else
        (some (.ok answer.roomId),
          { srv with aliases := srv.aliases.remember roomAlias answer.roomId now }, s)

def directoryPage (srv : Server) (q : DirectoryQuery) : DirectoryPage :=
  let page := pageNumber q.page
  { rooms := match q.q with
      | some query => srv.directory.search page PageSize.directory query
      | none => srv.directory.page page PageSize.directory
    page
    pageSize := PageSize.directory
    query := q.q }

/-- Makes a response of a query that can be read. -/
def withQuery {α : Type} (query : Option α) (f : α → Server → σ → Response × Server × σ)
    (srv : Server) (s : σ) : Response × Server × σ :=
  match query with
  | none => (.malformed, srv, s)
  | some q => f q srv s

/-- The response to a request for a route. There is none to a call that never comes back. -/
def get (hs : Homeserver σ) (now : Time) (route : Route) (query : String) (srv : Server) (s : σ) :
    Option Response × Server × σ :=
  let answered (r : Response × Server × σ) : Option Response × Server × σ := (some r.1, r.2)
  match route with
  | .directory =>
    answered (srv.withQuery (DirectoryQuery.parse? query)
      (fun q srv s => (.page (srv.directoryPage q).toJson, srv, s)) s)
  | .resolve roomAlias =>
    match srv.resolveAlias hs now roomAlias s with
    | (none, srv, s) => (none, srv, s)
    | (some (.error e), srv, s) => (some (.ofError e), srv, s)
    | (some (.ok room), srv, s) =>
      (some (.redirect (roomPath srv.settings.routePrefix room)), srv, s)
  | .room room =>
    answered (srv.withQuery (EventsQuery.parse? query)
      (fun q => roomPage hs now
        (.eventsPage room (q.anchor.getD "") (q.offset.getD 0) PageSize.timeline)
        fun reply : EventsReply =>
          (TimelinePage.ofReply (q.anchor.getD "") (q.offset.getD 0) q.highlight reply).toJson) s)
  | .permalink room event =>
    (some (.redirect (permalinkPath srv.settings.routePrefix room event)), srv, s)
  | .members room =>
    answered (srv.withQuery (PageQuery.parse? query)
      (fun q => roomPage hs now (.members room (pageNumber q.page) PageSize.members)
        (ListReply.toJson "members" Member.toJson)) s)
  | .member room user => answered (srv.roomPage hs now (.memberInfo room user) MemberReply.toJson s)
  | .servers room =>
    answered (srv.withQuery (PageQuery.parse? query)
      (fun q => roomPage hs now (.servers room (pageNumber q.page) PageSize.servers)
        (ListReply.toJson "servers" ServerUsers.toJson)) s)
  | .aliases room =>
    answered (srv.withQuery (PageQuery.parse? query)
      (fun q => roomPage hs now (.aliases room (pageNumber q.page) PageSize.aliases)
        (ListReply.toJson "aliases" ServerAliases.toJson)) s)
  | .powerLevels room => answered (srv.roomPage hs now (.powerLevels room) LevelsReply.toJson s)

/-- The response to a request for a written destination. -/
def visit (hs : Homeserver σ) (now : Time) (d : Destination) (query : String) (srv : Server)
    (s : σ) : Option Response × Server × σ :=
  match d.decode? with
  | none => (some .malformed, srv, s)
  | some d =>
    if d.isServed then srv.get hs now d.route query s else (some .miscounted, srv, s)

/-- The response to a request line. -/
def handle (hs : Homeserver σ) (now : Time) (method : Method) (target : Target) (srv : Server)
    (s : σ) : Option Response × Server × σ :=
  match method, Destination.ofPath? srv.place target.path with
  | .options, d => (some (.options d.isSome), srv, s)
  | _, none => (some .notFound, srv, s)
  | .other, some _ => (some .wrongMethod, srv, s)
  | .get, some d => srv.visit hs now d target.query s
  | .head, some d =>
    let (response, srv, s) := srv.visit hs now d target.query s
    (response.map Response.withoutBody, srv, s)

end Server

end RoomReader
