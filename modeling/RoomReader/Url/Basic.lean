import RoomReader.Text.Form
import RoomReader.Url.Error

namespace RoomReader

/-!
# URLs

A URL keeps its parts as they are written: percent-coded where that is needed. A path is a list of
segments, each after a slash, or one text without slashes of its own; only a URL of the first kind
can be extended.
-/

namespace Url

inductive Host where
  | domain (name : String)
  | ipv4 (address : Nat)
  /-- Eight pieces of 16 bits. -/
  | ipv6 (pieces : List Nat)
deriving DecidableEq, Repr

structure Authority where
  username : String := ""
  password : String := ""
  host : Host
  port : Option Nat := none
deriving DecidableEq, Repr

inductive Path where
  | rootless (text : String)
  | segments (parts : List String)
deriving DecidableEq, Repr

/-- The schemes whose URLs always have an authority and a path, with their usual ports. -/
def specialSchemes : List (String × Option Nat) :=
  [("http", some 80), ("https", some 443), ("ws", some 80), ("wss", some 443), ("ftp", some 21),
    ("file", none)]

def isSpecialScheme (scheme : String) : Bool := (specialSchemes.lookup scheme).isSome

def defaultPort? (scheme : String) : Option Nat := (specialSchemes.lookup scheme).join

end Url

structure Url where
  scheme : String
  authority : Option Url.Authority := none
  /-- Whether the path is written after `/.`, so that two slashes at its start are not taken for
  those of an authority. -/
  shielded : Bool := false
  path : Url.Path
  query : Option String := none
  fragment : Option String := none
deriving DecidableEq, Repr

namespace Url

/-- The dotted form of a 32-bit address. -/
def ipv4Text (address : Nat) : String :=
  String.intercalate "." ([24, 16, 8, 0].map fun shift => toString ((address >>> shift) % 256))

/-- How many zeros stand at the start. -/
def leadingZeros (pieces : List Nat) : Nat := (pieces.takeWhile (· == 0)).length

/-- The first of the longest runs of two or more zeros: where it starts and how long it is. -/
def zeroRun? (pieces : List Nat) : Option (Nat × Nat) :=
  let runs := (List.range pieces.length).map fun i => (i, leadingZeros (pieces.drop i))
  let best := runs.foldl (fun best r => if best.2 < r.2 then r else best) (0, 1)
  if best.2 < 2 then none else some best

def hexText (n : Nat) : String := String.ofList (Nat.toDigits 16 n)

/-- The form with the longest run of zeros left out. -/
def ipv6Text (pieces : List Nat) : String :=
  let join (l : List Nat) : String := String.intercalate ":" (l.map hexText)
  match zeroRun? pieces with
  | none => join pieces
  | some (start, count) => join (pieces.take start) ++ "::" ++ join (pieces.drop (start + count))

def Host.text : Host → String
  | domain name => name
  | ipv4 address => ipv4Text address
  | ipv6 pieces => "[" ++ ipv6Text pieces ++ "]"

def Authority.text (a : Authority) : String :=
  let secret := if a.password.isEmpty then "" else ":" ++ a.password
  let user := if a.username.isEmpty && a.password.isEmpty then "" else a.username ++ secret ++ "@"
  let port := match a.port with
    | none => ""
    | some p => ":" ++ toString p
  user ++ a.host.text ++ port

def Path.text : Path → String
  | rootless text => text
  | segments parts => String.join (parts.map ("/" ++ ·))

def text (u : Url) : String :=
  let authority := match u.authority with
    | none => ""
    | some a => "//" ++ a.text
  let query := match u.query with
    | none => ""
    | some q => "?" ++ q
  let fragment := match u.fragment with
    | none => ""
    | some f => "#" ++ f
  let shield := if u.shielded then "/." else ""
  u.scheme ++ ":" ++ authority ++ shield ++ u.path.text ++ query ++ fragment

def isSpecial (u : Url) : Bool := isSpecialScheme u.scheme

/-- Tab, line feed and carriage return are never part of a URL. -/
def isIgnored (c : Char) : Bool := c == '\t' || c == '\n' || c == '\r'

def isDoubleDot (segment : String) : Bool :=
  ["..", ".%2e", "%2e.", "%2e%2e"].contains (segment.map Char.toLower)

def isSingleDot (segment : String) : Bool := [".", "%2e"].contains (segment.map Char.toLower)

def isDriveLetter (segment : String) : Bool :=
  match segment.toList with
  | [letter, mark] => letter.isAlpha && (mark == ':' || mark == '|')
  | _ => false

/-- A drive letter, whatever follows it after a backslash. -/
def startsWithDrive (segment : String) : Bool :=
  isDriveLetter (String.ofList (segment.toList.takeWhile (· ≠ '\\')))

/-- Without the last segment; a drive letter stays. -/
def shorten (segments : List String) : List String :=
  match segments.getLast? with
  | none => []
  | some last => if startsWithDrive last then segments else segments.dropLast

/-- Takes in one written segment of a path. Dots lead to the same or the enclosing folder; at the
end of the path they leave an empty segment behind. -/
def appendSegment (segments : List String) (segment : String) (atEnd : Bool) : List String :=
  if isDoubleDot segment then shorten segments ++ (if atEnd then [""] else [])
  else if isSingleDot segment then segments ++ (if atEnd then [""] else [])
  else segments ++ [segment]

/-- The segments without one empty segment at the end. -/
def popIfEmpty (segments : List String) : List String :=
  if segments.getLast? = some "" ∧ segments ≠ [""] then segments.dropLast else segments

/-- The path as a folder to put segments into: the root has no segments. -/
def asFolder (segments : List String) : List String := if segments = [""] then [] else segments

/-- Puts one segment at the end of a path. The text is coded so that it is one segment; only `.`
and `..` are passed over. -/
def pushSegment (special : Bool) (segments : List String) (text : String) : List String :=
  if text = "." ∨ text = ".." then segments
  else
    let set := if special then Percent.specialPathSegment else Percent.pathSegment
    let plain := String.ofList (text.toList.filter (! isIgnored ·))
    appendSegment (asFolder segments) (Percent.encode set plain) true

/-- Puts segments at the end of the path, in place of one empty segment there. `none` for a URL
that cannot be extended. -/
def extend? (u : Url) (segments : List String) : Option Url :=
  match u.path with
  | .rootless _ => none
  | .segments path =>
    some { u with path := .segments (segments.foldl (pushSegment u.isSpecial) (popIfEmpty path)) }

/-- Puts form-coded pairs at the end of the query. -/
def addPairs (u : Url) (pairs : List (String × String)) : Url :=
  let added := Form.encodePairs pairs
  match u.query with
  | none => { u with query := some added }
  | some q => { u with query := some (if q.isEmpty then added else q ++ "&" ++ added) }

end Url

end RoomReader
