import RoomReader.Url.Basic
import RoomReader.Url.Domain.Basic

namespace RoomReader.Url

/-!
# Hosts

A host in brackets is an IPv6 address. In a special URL a host is percent-decoded and taken as a
domain name, and one that ends in a number has to be an IPv4 address. In other URLs a host is any
text without delimiters.
-/

/-- The value of a digit or letter as a digit of a base above ten. -/
def baseDigit? (c : Char) : Option Nat :=
  if c.isDigit then some (c.toNat - 0x30)
  else if c.isLower then some (c.toNat - 0x61 + 10)
  else if c.isUpper then some (c.toNat - 0x41 + 10)
  else none

/-- The value of digits in a base, if all of them are some. -/
def digitsValue? (base : Nat) (digits : List Char) : Option Nat :=
  digits.foldlM (fun v c =>
    match baseDigit? c with
    | some d => if d < base then some (v * base + d) else none
    | none => none) 0

/-- One part of an IPv4 address: decimal, octal after `0`, hexadecimal after `0x`. -/
def ipv4Number? (part : List Char) : Option Nat :=
  match part with
  | [] => none
  | '0' :: 'x' :: digits => digitsValue? 16 digits
  | '0' :: 'X' :: digits => digitsValue? 16 digits
  | '0' :: d :: digits => digitsValue? 8 (d :: digits)
  | digits => digitsValue? 10 digits

/-- Whether the last part of a name that is not empty is a number. -/
def endsInNumber (parts : List (List Char)) : Bool :=
  let last? := match parts.reverse with
    | [] :: part :: _ => some part
    | [] :: [] => none
    | part :: _ => some part
    | [] => none
  match last? with
  | none => false
  | some part => (!part.isEmpty && part.all Char.isDigit) || (ipv4Number? part).isSome

/-- The address of at most four numbers, of which the last fills what the others leave. -/
def ipv4OfNumbers? (numbers : List Nat) : Option Nat :=
  match numbers.reverse with
  | [] => none
  | last :: leading =>
    let rest := Nat.pow 256 (4 - leading.length)
    if 4 ≤ leading.length ∨ leading.any (255 < ·) ∨ rest ≤ last then none
    else some (leading.foldr (fun n high => high * 256 + n) 0 * rest + last)

def ipv4? (parts : List (List Char)) : Option Nat := do
  let parts := if parts.getLast? = some [] then parts.dropLast else parts
  ipv4OfNumbers? (← parts.mapM ipv4Number?)

/-- One piece of an IPv6 address: up to four hexadecimal digits. -/
def ipv6Piece? (part : List Char) : Option Nat :=
  if part.isEmpty || 4 < part.length then none else digitsValue? 16 part

/-- A decimal number below 256 without leading zeros. -/
def ipv4Byte? (part : List Char) : Option Nat :=
  match part with
  | [] => none
  | '0' :: _ :: _ => none
  | digits =>
    if digits.all Char.isDigit then
      (digitsValue? 10 digits).bind fun n => if n < 256 then some n else none
    else none

/-- The pieces between colons; the last one may be an IPv4 address, which fills two. -/
def ipv6Pieces? (mayEndInIpv4 : Bool) : List (List Char) → Option (List Nat)
  | [] => some []
  | [last] =>
    if mayEndInIpv4 && last.contains '.' then
      match (splitAtEach '.' last).mapM ipv4Byte? with
      | some [a, b, c, d] => some [a * 256 + b, c * 256 + d]
      | _ => none
    else (ipv6Piece? last).map ([·])
  | part :: rest => do
    let piece ← ipv6Piece? part
    let pieces ← ipv6Pieces? mayEndInIpv4 rest
    return piece :: pieces

/-- Where a double colon stands: what is before and after it. -/
def splitDoubleColon (before : List Char) : List Char → Option (List Char × List Char)
  | ':' :: ':' :: rest => some (before.reverse, rest)
  | c :: rest => splitDoubleColon (c :: before) rest
  | [] => none

def piecesOf? (mayEndInIpv4 : Bool) (text : List Char) : Option (List Nat) :=
  if text.isEmpty then some [] else ipv6Pieces? mayEndInIpv4 (splitAtEach ':' text)

/-- The eight pieces of an address; a double colon stands for one or more zeros. -/
def ipv6? (text : List Char) : Option (List Nat) :=
  match splitDoubleColon [] text with
  | none => do
    let pieces ← piecesOf? true text
    if pieces.length = 8 then some pieces else none
  | some (before, after) => do
    let left ← piecesOf? false before
    let right ← piecesOf? true after
    if left.length + right.length ≤ 7 then
      some (left ++ List.replicate (8 - left.length - right.length) 0 ++ right)
    else none

/-- The text between brackets. -/
def bracketed? : List Char → Option (List Char)
  | '[' :: rest => if rest.getLast? = some ']' then some rest.dropLast else none
  | _ => none

/-- The host of a special URL. -/
def specialHost (text : List Char) : Except ParseError Host :=
  if text.head? = some '[' then
    match (bracketed? text).bind ipv6? with
    | some pieces => .ok (.ipv6 pieces)
    | none => .error .invalidIpv6Address
  else
    let name? := do
      let decoded ← Percent.decodeText? (String.ofList text)
      Domain.toAscii? decoded.toList
    match name? with
    | none => .error .idna
    | some [] => .error .emptyHost
    | some name =>
      let parts := splitAtEach '.' name
      if endsInNumber parts then
        match ipv4? parts with
        | some address => .ok (.ipv4 address)
        | none => .error .invalidIpv4Address
      else .ok (.domain (String.ofList name))

/-- What a host that is no domain name must not hold. -/
def isForbiddenHostChar (c : Char) : Bool :=
  c.toNat = 0
    || ['\t', '\n', '\r', ' ', '#', '/', ':', '<', '>', '?', '@', '[', '\\', ']', '^',
        '|'].contains c

/-- The host of a URL that is not special. -/
def plainHost (text : List Char) : Except ParseError Host :=
  if text.head? = some '[' then
    match (bracketed? text).bind ipv6? with
    | some pieces => .ok (.ipv6 pieces)
    | none => .error .invalidIpv6Address
  else if text.any isForbiddenHostChar then .error .invalidDomainCharacter
  else .ok (.domain (Percent.encode Percent.controls (String.ofList text)))

end RoomReader.Url
