import RegistryProxy.Text.Utf8

/-!
# Certificate/Element — elements with a tag and a length

An element has a tag, which tells its class and number and whether it is made of elements, then its
content.  The length of the content stands in front of it, or two zeros stand behind it.
`Element.open?` reads the tag and the length; `Element.value?` reads the content of a universal
element, of one piece or of several, and refuses one that does not fit its number.
-/

namespace RegistryProxy

/-- An element whose tag and length have been read. -/
structure Element where
  /-- The class: zero is universal, two depends on where the element stands. -/
  family : Nat
  /-- The number in the class. -/
  number : Nat
  /-- Whether it is made of elements. -/
  constructed : Bool
  /-- The content; with two zeros behind it, all that follows. -/
  content : Bytes
  /-- What follows the element, if its length was given. -/
  after : Option Bytes
  deriving DecidableEq

namespace Element

/-- The number of a tag in digits of seven bits; `n` has been read. -/
def tagNumber? (n : Nat) : Bytes → Option (Nat × Bytes)
  | b :: b' :: rest =>
    let n := n * 128 + b.toNat % 128
    if b < 0x80 then some (n, b' :: rest)
    else if 0xffffff < n then none
    else tagNumber? n (b' :: rest)
  | _ => none

/-- A length, none for zeros behind the content, and what follows it. -/
def length? : Bytes → Option (Option Nat × Bytes)
  | [] => none
  | b :: rest =>
    if b = 0x80 then some (none, rest)
    else if b < 0x80 then some (some b.toNat, rest)
    else
      let places := b.toNat - 0x80
      if rest.length ≤ places then none
      else
        some (some ((rest.take places).foldl (fun n b => n * 256 + b.toNat) 0), rest.drop places)

/-- **Reads the tag and the length of an element**, which has to be there as a whole. -/
def open? : Bytes → Option Element
  | [] => none
  | b :: rest => do
    let low := b.toNat % 32
    let (number, rest) ← if low = 31 then tagNumber? 0 rest else some (low, rest)
    let (length, rest) ← length? rest
    let family := b.toNat / 64
    let constructed := b.toNat / 32 % 2 == 1
    match length with
    | none =>
      if constructed then some { family, number, constructed, content := rest, after := none }
      else none
    | some n =>
      if n ≤ rest.length then
        some { family, number, constructed, content := rest.take n, after := some (rest.drop n) }
      else none

/-- Whether two zeros stand here. -/
def isEnd : Bytes → Bool
  | 0 :: 0 :: _ => true
  | _ => false

/-- Whether the content of an element ends here. -/
def endsAt (e : Element) (bs : Bytes) : Bool := if e.after.isSome then bs.isEmpty else isEnd bs

/-- What follows an element, when its content ends here. -/
def close (e : Element) (bs : Bytes) : Option Bytes :=
  if e.endsAt bs then some (e.after.getD (bs.drop 2)) else none

/-- Skips elements up to the zeros that end `ends` of them; `fuel` bounds their number. -/
def behindEnds (fuel ends : Nat) (bs : Bytes) : Option Bytes :=
  match fuel with
  | 0 => none
  | fuel + 1 =>
    if isEnd bs then
      if ends ≤ 1 then some (bs.drop 2) else behindEnds fuel (ends - 1) (bs.drop 2)
    else do
      let e ← open? bs
      match e.after with
      | some rest => behindEnds fuel ends rest
      | none => behindEnds fuel (ends + 1) e.content

/-- What follows an element of any content. -/
def skip? (e : Element) : Option Bytes :=
  match e.after with
  | some rest => some rest
  | none => behindEnds (e.content.length + 1) 1 e.content

/-- Joins the pieces of an element, which may be in pieces again `depth` times, and tells what
follows; `fuel` bounds their number. -/
def joinFrom (fuel depth : Nat) (e : Element) (bs : Bytes) : Option (Bytes × Bytes) :=
  match fuel with
  | 0 => none
  | fuel + 1 =>
    if e.endsAt bs then (e.close bs).map fun rest => ([], rest)
    else if isEnd bs then none
    else do
      let piece ← open? bs
      let (text, rest) ←
        match piece.constructed, depth with
        | false, _ => piece.after.map fun rest => (piece.content, rest)
        | true, 0 => none
        | true, depth + 1 => joinFrom fuel depth piece piece.content
      let (more, rest) ← joinFrom fuel depth e rest
      return (text ++ more, rest)

/-! ## Universal elements -/

/-- The number of a truth value. -/
def boolean : Nat := 1

/-- The number of an integer. -/
def integer : Nat := 2

/-- The number of bits. -/
def bits : Nat := 3

/-- The number of bytes. -/
def octets : Nat := 4

/-- The number of the element without content. -/
def null : Nat := 5

/-- The number of a name in digits. -/
def object : Nat := 6

/-- The number of a value of an enumeration. -/
def enumerated : Nat := 10

/-- The number of a text of any characters, in bytes. -/
def utf8Text : Nat := 12

/-- The number of a sequence. -/
def sequence : Nat := 16

/-- The number of a set. -/
def set : Nat := 17

/-- The number of a moment whose year has two digits. -/
def shortMoment : Nat := 23

/-- The number of a moment whose year has four digits. -/
def longMoment : Nat := 24

/-- The number of a text of four bytes a character. -/
def wideText : Nat := 28

/-- The number of a text of two bytes a character. -/
def pairText : Nat := 30

/-- Whether bytes are an integer in as few bytes as can be. -/
def isShortest : Bytes → Bool
  | [] => false
  | [_] => true
  | a :: b :: _ => !(a == 0 && b < 0x80) && !(a == 0xff && 0x80 ≤ b)

/-- Whether bytes are numbers in digits of seven bits, none with a zero in front; `inside` tells
whether a number goes on. -/
def areNumbers (inside : Bool) : Bytes → Bool
  | [] => !inside
  | b :: rest => (inside || b != 0x80) && areNumbers (0x80 ≤ b) rest

/-- Whether a universal element with this number may have this content. -/
def fits (number : Nat) (content : Bytes) : Bool :=
  if number = boolean then content.length == 1
  else if number = integer ∨ number = enumerated then isShortest content
  else if number = bits then content.head?.any (· ≤ 7)
  else if number = null then content.isEmpty
  else if number = object then !content.isEmpty && areNumbers false content
  else if number = wideText then content.length % 4 == 0
  else if number = pairText then content.length % 2 == 0
  else true

/-- Whether a universal element is always in one piece. -/
def isWhole (number : Nat) : Bool := [boolean, integer, null, object, enumerated].contains number

/-- **The content of an element as one with a universal number**, and what follows. -/
def value? (number : Nat) (e : Element) : Option (Bytes × Bytes) := do
  let (content, rest) ←
    if !e.constructed then e.after.map fun rest => (e.content, rest)
    else if isWhole number then none
    else joinFrom (e.content.length + 1) 5 e e.content
  guard (fits number content)
  return (content, rest)

end Element

end RegistryProxy
