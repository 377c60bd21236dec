import RoomReader.Text.Composition.Table

namespace RoomReader.Composition

/-!
# Composed form

Letters with marks come in one form. A text is taken apart, the marks after a letter are put into
the order of their classes, and then what can be one character becomes one. Hangul syllables are
composed by counting, all others by a table.
-/

/-- What orders a mark among the marks of a letter; 0 for characters that keep their place. -/
def classOf (c : Char) : Nat :=
  if c.toNat < 0x300 then 0
  else
    match classRows.find? fun (first, last, _) => first ≤ c.toNat && c.toNat ≤ last with
    | some (_, _, k) => k
    | none => 0

namespace Hangul

/-- The first syllable, of 19 leading consonants by 21 vowels by 27 trailing consonants or none. -/
def base : Nat := 0xAC00

def leadBase : Nat := 0x1100

def vowelBase : Nat := 0x1161

/-- The code point before the first trailing consonant. -/
def tailBase : Nat := 0x11A7

def leads : Nat := 19

def vowels : Nat := 21

/-- The trailing consonants and none of them. -/
def tails : Nat := 28

/-- A syllable without its last part, and that part. -/
def takeApart? (code : Nat) : Option (Nat × Nat) :=
  let i := code - base
  if code < base ∨ leads * vowels * tails ≤ i then none
  else if i % tails = 0 then
    some (leadBase + i / (vowels * tails), vowelBase + i % (vowels * tails) / tails)
  else some (code - i % tails, tailBase + i % tails)

/-- The syllable of a leading consonant and a vowel, or of those two and a trailing consonant. -/
def combine? (a b : Nat) : Option Nat :=
  if leadBase ≤ a ∧ a < leadBase + leads ∧ vowelBase ≤ b ∧ b < vowelBase + vowels then
    some (base + ((a - leadBase) * vowels + (b - vowelBase)) * tails)
  else if base ≤ a ∧ a < base + leads * vowels * tails ∧ (a - base) % tails = 0
      ∧ tailBase < b ∧ b < tailBase + tails then
    some (a + (b - tailBase))
  else none

end Hangul

/-- The two characters that one is made of. -/
def takeApart? (c : Char) : Option (Char × Char) :=
  if c.toNat < 0x80 then none
  else
    let found := (pairs.find? fun (whole, _) => whole == c.toNat).map Prod.snd
    ((Hangul.takeApart? c.toNat).or found).map fun (a, b) => (Char.ofNat a, Char.ofNat b)

/-- The character that two are together. -/
def combine? (a b : Char) : Option Char :=
  if b.toNat < 0x80 then none
  else
    let found := (pairs.find? fun (_, parts) => parts == (a.toNat, b.toNat)).map Prod.fst
    ((Hangul.combine? a.toNat b.toNat).or found).map Char.ofNat

/-- The greatest depth to which characters are made of one another. -/
def maxDepth : Nat := 4

/-- The parts of a character; only the first of two may have parts again. -/
def parts : Nat → Char → List Char
  | 0, c => [c]
  | depth + 1, c =>
    match takeApart? c with
    | some (a, b) => parts depth a ++ [b]
    | none => [c]

/-- Puts a character before others, and a mark behind those marks that go before it. -/
def insertMark (c : Char) : List Char → List Char
  | [] => [c]
  | d :: rest =>
    if 0 < classOf d ∧ classOf d < classOf c then d :: insertMark c rest else c :: d :: rest

/-- All characters taken apart, with their marks in order. -/
def decompose (text : List Char) : List Char :=
  (text.flatMap (parts maxDepth)).foldr insertMark []

/-- A text on its way to the composed form: what is done, the last letter, and its marks that stay
on their own; `done` and `marks` are backwards. -/
structure Progress where
  done : List Char := []
  letter : Option Char := none
  marks : List Char := []

/-- Takes in a character. It joins the letter unless a mark of its class or a higher one stands
between them. -/
def Progress.take (p : Progress) (c : Char) : Progress :=
  match p.letter with
  | none => if classOf c = 0 then { p with letter := some c } else { p with done := c :: p.done }
  | some letter =>
    let apart := match p.marks with
      | [] => false
      | mark :: _ => classOf c ≤ classOf mark
    match if apart then none else combine? letter c with
    | some whole => { p with letter := some whole }
    | none =>
      if classOf c = 0 then { done := p.marks ++ letter :: p.done, letter := some c }
      else { p with marks := c :: p.marks }

def Progress.text (p : Progress) : List Char := (p.marks ++ p.letter.toList ++ p.done).reverse

def compose (text : List Char) : List Char := ((decompose text).foldl Progress.take {}).text

end RoomReader.Composition
