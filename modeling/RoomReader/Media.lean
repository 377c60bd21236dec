import RoomReader.Url.Parser

namespace RoomReader.Media

/-!
# Media links

A content URI names a server and a piece of media on it. The links lead to a media host that serves
it, as it is or as a thumbnail.
-/

structure ContentUri where
  server : String
  mediaId : String
deriving DecidableEq, Repr

/-- Reads a content URI; neither part may be empty. -/
def ContentUri.parse? (uri : String) : Option ContentUri :=
  match uri.toList with
  | 'm' :: 'x' :: 'c' :: ':' :: '/' :: '/' :: rest =>
    let server := rest.takeWhile (· ≠ '/')
    let mediaId := (rest.dropWhile (· ≠ '/')).drop 1
    if server.isEmpty || mediaId.isEmpty then none
    else some ⟨String.ofList server, String.ofList mediaId⟩
  | _ => none

def segments (kind : String) (c : ContentUri) : List String :=
  ["_matrix", "media", "r0", kind, c.server, c.mediaId]

def link? (base kind : String) (c : ContentUri) : Option Url := do
  let base ← (Url.parse base).toOption
  base.extend? (segments kind c)

/-- The link to a piece of media in full size. -/
def download? (uri base : String) : Option String := do
  let c ← ContentUri.parse? uri
  return (← link? base "download" c).text

/-- The link to a thumbnail. -/
def thumbnail? (uri base : String) (width height : Nat) (method : String) : Option String := do
  let c ← ContentUri.parse? uri
  let link ← link? base "thumbnail" c
  return (link.addPairs
    [("width", toString width), ("height", toString height), ("method", method)]).text

end RoomReader.Media
