import RoomReader.Decimal.Shortest

namespace RoomReader

/-!
# Writing JSON

No blanks are written. Control characters are escaped, all other text stands as it is. A double
has its shortest digits, written by place between `1e-5` and `1e16` and with an exponent beyond.
-/

namespace Double

def zeros (n : Nat) : String := String.ofList (List.replicate n '0')

/-- The text of a nonnegative double. -/
def magnitudeText (d : Decimal) : String :=
  if d.digits = 0 then "0.0"
  else
    let digits := (Nat.toDigits 10 d.digits)
    let point := (digits.length : Int) + d.exponent
    if 0 ≤ d.exponent ∧ point ≤ 16 then
      String.ofList digits ++ zeros d.exponent.toNat ++ ".0"
    else if 0 < point ∧ point ≤ 16 then
      String.ofList (digits.take point.toNat) ++ "." ++ String.ofList (digits.drop point.toNat)
    else if -5 < point ∧ point ≤ 0 then
      "0." ++ zeros (-point).toNat ++ String.ofList digits
    else
      let lead := String.ofList (digits.take 1)
      let rest := digits.drop 1
      let mantissa := if rest.isEmpty then lead else lead ++ "." ++ String.ofList rest
      mantissa ++ "e" ++ toString (point - 1)

def text (d : Double) : String :=
  (if d.isNegative then "-" else "") ++ magnitudeText d.shortest

end Double

namespace Json

/-- The lower-case hexadecimal digit of a number below 16. -/
def hexDigit (n : Nat) : Char := (Nat.digitChar n)

/-- One character of a quoted text. -/
def escapeChar (c : Char) : String :=
  if c = '"' then "\\\""
  else if c = '\\' then "\\\\"
  else if c = '\n' then "\\n"
  else if c = '\r' then "\\r"
  else if c = '\t' then "\\t"
  else if c.toNat = 8 then "\\b"
  else if c.toNat = 12 then "\\f"
  else if c.toNat < 32 then
    "\\u00" ++ String.ofList [hexDigit (c.toNat / 16), hexDigit (c.toNat % 16)]
  else String.singleton c

def quote (s : String) : String :=
  "\"" ++ String.join (s.toList.map escapeChar) ++ "\""

mutual

/-- The compact text of a value. -/
def render : Json → String
  | null => "null"
  | bool b => if b then "true" else "false"
  | int n => toString n
  | double d => d.text
  | str s => quote s
  | arr items => "[" ++ String.intercalate "," (renderItems items) ++ "]"
  | obj fields => "\x7b" ++ String.intercalate "," (renderFields fields) ++ "\x7d"

def renderItems : List Json → List String
  | [] => []
  | v :: rest => render v :: renderItems rest

def renderFields : List (String × Json) → List String
  | [] => []
  | (name, v) :: rest => (quote name ++ ":" ++ render v) :: renderFields rest

end

end Json

end RoomReader
