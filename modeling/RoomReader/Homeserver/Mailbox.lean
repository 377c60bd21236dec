import RoomReader.Homeserver.Client
import RoomReader.Json.Record

namespace RoomReader

/-!
# Answers that come later

Requests can be answered from outside, one at a time: what is done is done again with one answer
more, until no request is left open. Nothing is asked twice, because what is done is the same up to
the first open request.
-/

/-- The answers that are there, and the first request beyond them. An answer may be a failure. -/
structure Mailbox where
  answers : List (Option HttpAnswer)
  unanswered : Option HttpRequest := none

namespace Mailbox

/-- After an open request no other counts. -/
def send (request : HttpRequest) (m : Mailbox) : Option HttpAnswer × Mailbox :=
  match m.unanswered, m.answers with
  | some _, _ => (none, m)
  | none, [] => (none, { m with unanswered := some request })
  | none, answer :: rest => (answer, { m with answers := rest })

end Mailbox

namespace HttpRequest

def toJson (r : HttpRequest) : Json :=
  .obj [("get", .str r.url.text), ("bearer", .ofOption .str r.bearer)]

end HttpRequest

namespace HttpAnswer

/-- Reads an answer from the text of a record with its status and its body. -/
def ofText? (s : String) : Option HttpAnswer := do
  let shape := Shape.record [Shape.field "status", Shape.field "body"]
  let v ← shape.ofBytes? (Utf8.encode s)
  let f ← v.record? shape.names
  let status ← Json.required Json.int64? (f "status")
  let body ← Json.withDefault "" Json.text? (f "body")
  return { status := status.toInt.toNat, body := Utf8.encode body }

end HttpAnswer

end RoomReader
