import RoomReader.Url.Host

namespace RoomReader.Url

/-!
# Reading URLs

Controls and spaces around a URL and tabs and line ends inside it are passed over. Only a URL with
a scheme is read.
-/

/-- Controls and space. -/
def isOuterBlank (c : Char) : Bool := c.toNat ≤ 0x20

/-- A text without controls and spaces around it. -/
def trim (s : String) : List Char :=
  ((s.toList.dropWhile isOuterBlank).reverse.dropWhile isOuterBlank).reverse

/-- A text without tabs and line ends. -/
def tidy (cs : List Char) : List Char := cs.filter (! isIgnored ·)

def isSchemeChar (c : Char) : Bool := c.isAlphanum || c == '+' || c == '-' || c == '.'

/-- The scheme in lower case, and what follows its colon. -/
def splitScheme? (cs : List Char) : Option (String × List Char) :=
  match cs with
  | [] => none
  | first :: _ =>
    if !first.isAlpha then none
    else
      match cs.dropWhile isSchemeChar with
      | ':' :: rest => some (String.ofList ((cs.takeWhile isSchemeChar).map Char.toLower), rest)
      | _ => none

def isSlash (special : Bool) (c : Char) : Bool := c == '/' || (special && c == '\\')

/-- What ends an authority. -/
def endsAuthority (special : Bool) (c : Char) : Bool := isSlash special c || c == '?' || c == '#'

/-- The user information of an authority: what stands before its last `@`. -/
def splitUserinfo? (authority : List Char) : Option (List Char × List Char) :=
  if authority.contains '@' then
    let host := (authority.reverse.takeWhile (· ≠ '@')).reverse
    some (authority.take (authority.length - host.length - 1), host)
  else none

def encodeChars (set : Percent.EncodeSet) (cs : List Char) : String :=
  Percent.encode set (String.ofList cs)

/-- User name and password of a user information. -/
def credentials (userinfo : List Char) : String × String :=
  (encodeChars Percent.userinfo (userinfo.takeWhile (· ≠ ':')),
    encodeChars Percent.userinfo ((userinfo.dropWhile (· ≠ ':')).drop 1))

/-- A host up to a colon outside brackets, and the rest. -/
def splitHost (inBrackets : Bool) : List Char → List Char × List Char
  | [] => ([], [])
  | c :: rest =>
    if c = ':' ∧ !inBrackets then ([], c :: rest)
    else
      let (host, after) :=
        splitHost (if c = '[' then true else if c = ']' then false else inBrackets) rest
      (c :: host, after)

/-- The number after a colon. It is left out where the scheme would take it anyway. -/
def port? (scheme : String) (digits : List Char) : Except ParseError (Option Nat) :=
  if !digits.all Char.isDigit then .error .invalidPort
  else
    let port := (digitsValue? 10 digits).getD 0
    if 65535 < port then .error .invalidPort
    else if digits.isEmpty || defaultPort? scheme = some port then .ok none
    else .ok (some port)

/-- Reads an authority: what stands between the two slashes and the path. A host may be missing
only if the URL is not special and nothing else of the authority is there; `atEnd` says that the
URL ends with it. A backslash ends a port, and what stands from there on is given back. -/
def parseAuthority (scheme : String) (text : List Char) (atEnd : Bool) :
    Except ParseError (Authority × List Char) := do
  let special := isSpecialScheme scheme
  let split := splitUserinfo? text
  let (userinfo, hostPort) := split.getD ([], text)
  let (username, password) := credentials userinfo
  let (hostText, rest) := splitHost false hostPort
  let bareMark := split.isSome && userinfo.isEmpty && !atEnd
  if hostText.isEmpty
      && (special || !rest.isEmpty || !username.isEmpty || !password.isEmpty || bareMark) then
    throw .emptyHost
  let host ← if special then specialHost hostText else plainHost hostText
  match rest with
  | [] => return ({ username, password, host }, [])
  | _ :: digits =>
    let port ← port? scheme (digits.takeWhile (· ≠ '\\'))
    return ({ username, password, host, port }, digits.dropWhile (· ≠ '\\'))

/-- Reads the segments of a path. `found` holds those before, `part` the one begun, backwards. -/
def parseSegments (special : Bool) (found : List String) (part : List Char) :
    List Char → List String
  | [] => appendSegment found (encodeChars Percent.path part.reverse) true
  | c :: rest =>
    if isSlash special c then
      parseSegments special
        (appendSegment found (encodeChars Percent.path part.reverse) false) [] rest
    else parseSegments special found (c :: part) rest

/-- The path of a URL with an authority. -/
def parsePath (special : Bool) (text : List Char) : List String :=
  match text with
  | [] => if special then [""] else []
  | c :: rest => parseSegments special [] [] (if isSlash special c then rest else c :: rest)

/-- Where a tab or a line end comes right after a drive letter: the letter and what follows. -/
def splitDrive? (part : List Char) : Option (String × List Char) :=
  match tidy part, (part.dropWhile (· ≠ ':')).drop 1 with
  | letter :: ':' :: rest, next :: _ =>
    if letter.isAlpha && isIgnored next && !rest.isEmpty then
      some (String.ofList [letter, ':'], rest)
    else none
  | _, _ => none

/-- How far the path of a file URL has been read. -/
structure FilePath where
  segments : List String := []
  /-- Whether the path starts with a drive letter, and so lies on this machine. -/
  onDrive : Bool := false

/-- Takes in one part of a path, which may have tabs and line ends in it. A drive letter at the
start is written with a colon. -/
def FilePath.take (path : FilePath) (part : List Char) (atEnd : Bool) : FilePath :=
  let segment := encodeChars Percent.path (tidy part)
  let appended := { path with segments := appendSegment path.segments segment atEnd }
  if path.segments.isEmpty then
    match splitDrive? part with
    | some (drive, rest) => { path with segments := [drive, encodeChars Percent.path rest] }
    | none =>
      if isDriveLetter segment then
        { segments := [String.ofList (segment.toList.take 1) ++ ":"], onDrive := true }
      else appended
  else appended

def FilePath.takeAll (path : FilePath) : List (List Char) → FilePath
  | [] => path
  | [part] => path.take part true
  | part :: rest => (path.take part false).takeAll rest

/-- The path of a file after its first slash. -/
def parseFilePath (text : List Char) : FilePath :=
  ({} : FilePath).takeAll (splitAtEach '/' (text.map fun c => if c == '\\' then '/' else c))

/-- The path of a file URL does not start with an empty segment, unless that is all of it. -/
def trimSegments (segments : List String) : List String :=
  match segments.dropWhile (·.isEmpty) with
  | [] => [""]
  | rest => rest

/-- Query and fragment, with what stands before them. -/
structure Tail where
  before : List Char
  query : Option String
  fragment : Option String

def splitTail (special : Bool) (text : List Char) : Tail :=
  let fragment := match text.dropWhile (· ≠ '#') with
    | [] => none
    | _ :: rest => some (encodeChars Percent.fragment (tidy rest))
  let text := text.takeWhile (· ≠ '#')
  let set := if special then Percent.specialQuery else Percent.query
  let query := match text.dropWhile (· ≠ '?') with
    | [] => none
    | _ :: rest => some (encodeChars set (tidy rest))
  { before := text.takeWhile (· ≠ '?'), query, fragment }

/-- A URL with an authority; the text begins after the two slashes. -/
def parseHierarchical (scheme : String) (text : List Char) (tail : Tail) :
    Except ParseError Url := do
  let special := isSpecialScheme scheme
  let after := text.dropWhile (! endsAuthority special ·)
  let atEnd := after.isEmpty && tail.query.isNone && tail.fragment.isNone
  let (authority, left) ←
    parseAuthority scheme (text.takeWhile (! endsAuthority special ·)) atEnd
  return { scheme, authority := some authority
           path := .segments (parsePath special (left ++ after))
           query := tail.query, fragment := tail.fragment }

/-- A URL with a path alone; the text begins after the colon. -/
def parseLocal (scheme : String) (text : List Char) (tail : Tail) : Url :=
  match text with
  | '/' :: rest =>
    let segments := parseSegments false [] [] rest
    { scheme, shielded := segments.head? = some "" && 1 < segments.length
      path := .segments segments, query := tail.query, fragment := tail.fragment }
  | _ =>
    { scheme, path := .rootless (encodeChars Percent.controls text), query := tail.query
      fragment := tail.fragment }

/-- A file URL. A path that starts with a drive letter is on this machine. -/
def fileUrl (host : Host) (path : FilePath) (tail : Tail) : Url :=
  { scheme := "file", authority := some { host := if path.onDrive then .domain "" else host }
    path := .segments (trimSegments path.segments), query := tail.query, fragment := tail.fragment }

/-- The host of a file URL: this machine, or another one. -/
def fileHost (text : List Char) : Except ParseError Host := do
  if text.isEmpty then return .domain ""
  match ← specialHost text with
  | .domain "localhost" => return .domain ""
  | host => return host

/-- What follows a slash at the start. -/
def afterSlash? (text : List Char) : Option (List Char) :=
  match text.dropWhile isIgnored with
  | [] => none
  | c :: rest => if isSlash true c then some rest else none

/-- A file URL with two slashes; the text begins after them. After the name of another machine the
first slash belongs to the path, and else it stands after an empty segment. -/
def parseFileHost (text : List Char) (tail : Tail) : Except ParseError Url := do
  let hostText := tidy (text.takeWhile (! isSlash true ·))
  if isDriveLetter (String.ofList hostText) then
    return fileUrl (.domain "") (parseFilePath text) tail
  let path := text.dropWhile (! isSlash true ·)
  match ← fileHost hostText with
  | .domain "" => return fileUrl (.domain "") (parseFilePath path) tail
  | host => return fileUrl host (parseFilePath (path.drop 1)) tail

/-- A file URL; the text begins after the colon. -/
def parseFile (text : List Char) (tail : Tail) : Except ParseError Url :=
  match afterSlash? text with
  | none => .ok (fileUrl (.domain "") (parseFilePath text) tail)
  | some one =>
    match afterSlash? one with
    | none => .ok (fileUrl (.domain "") (parseFilePath one) tail)
    | some two => parseFileHost two tail

/-- A URL without a base to be resolved against. -/
def parse (s : String) : Except ParseError Url := do
  match splitScheme? (tidy (trim s)) with
  | none => throw .relativeWithoutBase
  | some (scheme, _) =>
    let special := isSpecialScheme scheme
    let tail := splitTail special (((trim s).dropWhile (· ≠ ':')).drop 1)
    if scheme = "file" then parseFile tail.before tail
    else
      let text := tidy tail.before
      if special then parseHierarchical scheme (text.dropWhile (isSlash true)) tail
      else
        match text with
        | '/' :: '/' :: rest => parseHierarchical scheme rest tail
        | text => return parseLocal scheme text tail

/-- Whether the URL has segments to be extended by. -/
def isBase (u : Url) : Bool :=
  match u.path with
  | .segments _ => true
  | .rootless _ => false

/-- The folder URL of a homeserver or media host. -/
def parseBase (s : String) : Except ParseError Url := do
  let u ← parse s
  if u.isBase then return u else throw .cannotBeABase

end RoomReader.Url
