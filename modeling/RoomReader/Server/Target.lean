import RoomReader.Text.Utf8

namespace RoomReader

/-!
# Request lines

A method is a token. A target is a path with a query, or the same after a scheme and an authority;
an authority or an asterisk alone has no path. A fragment is dropped. Where a path or a query holds
an ASCII character that has to be coded the request line is refused.
-/

inductive Method where
  | get
  | head
  | options
  | other
deriving DecidableEq, Repr

namespace Method

def isTokenChar (c : Char) : Bool := c.isAlphanum || "!#$%&'*+-.^_`|~".toList.contains c

/-- Methods are told apart by case. -/
def parse? (s : String) : Option Method :=
  if s.isEmpty || !s.toList.all isTokenChar then none
  else if s = "GET" then some get
  else if s = "HEAD" then some head
  else if s = "OPTIONS" then some options
  else some other

end Method

/-- The path as it is written, empty where there is none, and the written query. -/
structure Target where
  path : String
  query : String := ""
deriving DecidableEq, Repr

namespace Target

/-- The greatest length of a target, in bytes. -/
def maxLength : Nat := 65534

/-- Neither a control character nor a blank. -/
def isVisible (c : Char) : Bool := ' ' < c && c != '\x7F'

def isPathChar (c : Char) : Bool := isVisible c && !"#<>?`".toList.contains c

def isQueryChar (c : Char) : Bool := isVisible c && !"\"#<>".toList.contains c

/-- The characters with a place in an authority. -/
def isAuthorityChar (c : Char) : Bool := c.isAlphanum || "!$&'()*+,-.:;=@[]_~%".toList.contains c

/-- A path with a query and a fragment. -/
def ofPath? (s : List Char) : Option Target :=
  let s := s.takeWhile (· ≠ '#')
  let path := s.takeWhile (· ≠ '?')
  let query := (s.dropWhile (· ≠ '?')).drop 1
  if path.all isPathChar && query.all isQueryChar then
    some { path := if path.isEmpty then "/" else String.ofList path, query := String.ofList query }
  else none

/-- How far an authority has been read: its colons since the user part or since an address in
brackets, whether brackets were opened and closed, and whether a percent sign came since then. -/
structure AuthorityState where
  colons : Nat := 0
  opened : Bool := false
  closed : Bool := false
  percent : Bool := false
  last : Char := ' '

def AuthorityState.step (a : AuthorityState) (c : Char) : Option AuthorityState :=
  let a := { a with last := c }
  if !isAuthorityChar c then none
  else
    match c with
    | ':' => if 8 ≤ a.colons then none else some { a with colons := a.colons + 1 }
    | '[' => if a.percent || a.opened then none else some { a with opened := true }
    | ']' =>
      if !a.opened || a.closed then none
      else some { a with closed := true, colons := 0, percent := false }
    | '@' => some { a with colons := 0, percent := false }
    | '%' => some { a with percent := true }
    | _ => some a

/-- Whether a text is an authority: brackets in pairs, one port at most, something after the user
part, and no percent sign but there. -/
def isAuthority (s : List Char) : Bool :=
  match s.foldlM AuthorityState.step {} with
  | none => false
  | some a => a.opened == a.closed && a.colons ≤ 1 && a.last != '@' && !a.percent

def endsAuthority (c : Char) : Bool := c == '/' || c == '?' || c == '#'

def isSchemeChar (c : Char) : Bool := c.isAlphanum || "+-.~".toList.contains c

/-- The greatest length of a scheme. -/
def maxScheme : Nat := 64

/-- How a target without a slash in front starts. -/
inductive Lead where
  | authority
  | scheme (rest : List Char)
  | refused

def lead (s : List Char) : Lead :=
  match s.dropWhile isSchemeChar with
  | ':' :: '/' :: '/' :: rest =>
    if maxScheme < (s.takeWhile isSchemeChar).length then .refused else .scheme rest
  | _ => .authority

def parseChars? (s : List Char) : Option Target :=
  match s with
  | [] => none
  | ['*'] => some { path := "*" }
  | '/' :: _ => ofPath? s
  | _ =>
    match lead s with
    | .refused => none
    | .authority => if isAuthority s then some { path := "" } else none
    | .scheme rest =>
      let authority := rest.takeWhile (! endsAuthority ·)
      if authority.isEmpty || !isAuthority authority then none
      else ofPath? (rest.dropWhile (! endsAuthority ·))

def parse? (s : String) : Option Target :=
  if maxLength < s.utf8ByteSize then none else parseChars? s.toList

end Target

end RoomReader
