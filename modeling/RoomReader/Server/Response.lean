import RoomReader.Server.Error

namespace RoomReader

/-!
# Responses

Pages are JSON. Every response may be read from anywhere.
-/

structure Response where
  status : Nat
  location : Option String := none
  /-- The methods that a path has. -/
  allow : Option String := none
  contentType : Option String := none
  /-- The body, where it is JSON. -/
  body : Option Json := none

namespace Response

def methods : String := "GET,HEAD"

def ofJson (status : Nat) (v : Json) : Response :=
  { status, contentType := some "application/json", body := some v }

def page (v : Json) : Response := ofJson 200 v

def ofError (e : RequestError) : Response := ofJson e.notice.status e.notice.toJson

def redirect (location : String) : Response := { status := 307, location := some location }

/-- A path or a query that cannot be read. -/
def malformed : Response := { status := 400, contentType := some "text/plain; charset=utf-8" }

/-- A path with more texts than its page expects. -/
def miscounted : Response := { malformed with status := 500 }

def notFound : Response := { status := 404 }

def wrongMethod : Response := { status := 405, allow := some methods }

/-- The answer to a question about what is allowed. -/
def options (known : Bool) : Response :=
  { status := 200, allow := if known then some methods else none }

def withoutBody (r : Response) : Response := { r with body := none }

/-- The headers that say more than how the body is sent. -/
def headers (r : Response) : List (String × String) :=
  let optional (name : String) (value : Option String) : List (String × String) :=
    (value.map fun v => (name, v)).toList
  optional "location" r.location ++ optional "allow" r.allow
    ++ optional "content-type" r.contentType ++ [("access-control-allow-origin", "*")]

def toJson (r : Response) : Json :=
  .obj [("status", .ofNat r.status), ("headers", .obj (r.headers.map fun h => (h.1, .str h.2))),
    ("body", r.body.getD .null)]

end Response

end RoomReader
