import RegistryProxy.Binary64.Decimal
import RegistryProxy.Url.Domain

/-!
# Url/Host — the hosts of addresses on the web

A host is a domain name, an address of four bytes or one of eight words.  A name whose last label is
a number is read as an address of four bytes, in any of its old spellings, and written in the usual
one.
-/

namespace RegistryProxy.Url

/-- Why a text is no address on the web. -/
inductive ParseError where
  /-- It has no scheme. -/
  | relative
  /-- It has no host where one must be. -/
  | emptyHost
  /-- What stands behind the colon of its host is no number of sixteen bits. -/
  | portNumber
  /-- Its host is no domain name. -/
  | domainName
  /-- Its host has a character that would end it. -/
  | hostCharacter
  /-- Its host is no address of four bytes. -/
  | fourBytes
  /-- Its host is no address of eight words. -/
  | eightWords
  deriving DecidableEq, Repr

/-- The wording of a parse error. -/
def ParseError.message : ParseError → String
  | .relative => "relative URL without a base"
  | .emptyHost => "empty host"
  | .portNumber => "invalid port number"
  | .domainName => "invalid international domain name"
  | .hostCharacter => "invalid domain character"
  | .fourBytes => "invalid IPv4 address"
  | .eightWords => "invalid IPv6 address"

/-- A host. -/
inductive Host where
  /-- A name. -/
  | domain (name : String)
  /-- An address of four bytes, as one number. -/
  | fourBytes (value : Nat)
  /-- An address of eight words. -/
  | eightWords (words : List Nat)
  deriving DecidableEq, Repr

/-! ## Addresses of four bytes -/

/-- The value of a digit in a base up to sixteen. -/
def digitValue? (base : Nat) (c : Char) : Option Nat := do
  let n ← Percent.hexValue? c.val.toUInt8
  guard (c.toNat < 0x80 ∧ n < base)
  return n

/-- The number of a list of digits. -/
def number? (base : Nat) (cs : List Char) : Option Nat :=
  (cs.mapM (digitValue? base)).map fun ds => ds.foldl (fun n d => n * base + d) 0

/-- A part of an address: decimal, octal behind a zero, or hexadecimal behind `0x`. -/
def addressPart? (cs : List Char) : Option Nat :=
  match cs with
  | [] => none
  | '0' :: 'x' :: rest | '0' :: 'X' :: rest => number? 16 rest
  | '0' :: d :: rest => number? 8 (d :: rest)
  | _ => number? 10 cs

/-- The parts of a name between its points, without an empty one at the end. -/
def addressParts (name : List Char) : List (List Char) :=
  let parts := Text.splitAt '.' name
  if parts.getLast? = some [] then parts.dropLast else parts

/-- Whether the last label of a name is a number. -/
def endsInNumber (name : List Char) : Bool :=
  match (addressParts name).getLast? with
  | none => false
  | some last => (!last.isEmpty && last.all Char.isDigit) || (addressPart? last).isSome

/-- The value of an address whose last part fills all bytes that the others leave. -/
def fourBytes? (name : List Char) : Option Nat := do
  let parts ← (addressParts name).mapM addressPart?
  let last ← parts.getLast?
  let front := parts.dropLast
  guard (front.length < 4 ∧ front.all (· ≤ 255) ∧ last < Nat.pow 256 (4 - front.length))
  return front.foldl (fun n b => n * 256 + b) 0 * Nat.pow 256 (4 - front.length) + last

/-- An address of four bytes as text. -/
def fourBytesText (n : Nat) : List Char :=
  ['.'].intercalate ([n / 16777216, n / 65536 % 256, n / 256 % 256, n % 256].map Decimal.digitsText)

/-! ## Addresses of eight words -/

/-- The words so far, and how many of them stand before the gap. -/
structure Words where
  /-- The words so far; the gap counts as one zero. -/
  words : List Nat := []
  /-- How many words stand before the end of the gap. -/
  gap : Option Nat := none

/-- The words of an address, the gap filled with zeros. -/
def Words.fill (w : Words) : Option (List Nat) :=
  match w.gap with
  | none => if w.words.length = 8 then some w.words else none
  | some g =>
    if w.words.length ≤ 8 then
      some (w.words.take g ++ List.replicate (8 - w.words.length) 0 ++ w.words.drop g)
    else none

/-- A decimal byte without leading zeros. -/
def decimalByte? (cs : List Char) : Option Nat := do
  guard (!cs.isEmpty ∧ cs.all Char.isDigit ∧ (cs.length = 1 ∨ cs.head? ≠ some '0'))
  let n := Decimal.digitsValue cs
  guard (n ≤ 255)
  return n

/-- Two words from four decimal bytes with points between them. -/
def dottedWords? (cs : List Char) : Option (List Nat) := do
  match ← (Text.splitAt '.' cs).mapM decimalByte? with
  | [a, b, c, d] => some [a * 256 + b, c * 256 + d]
  | _ => none

/-- Reads words up to the end; `fuel` bounds their number. -/
def readWords (fuel : Nat) (w : Words) (cs : List Char) : Option Words :=
  match fuel, cs with
  | _, [] => some w
  | 0, _ => none
  | fuel + 1, ':' :: rest =>
    if w.gap.isSome then none
    else readWords fuel { words := w.words ++ [0], gap := some (w.words.length + 1) } rest
  | fuel + 1, cs =>
    let digits := (cs.take 4).takeWhile fun c => (digitValue? 16 c).isSome
    let word := (number? 16 digits).getD 0
    match cs.drop digits.length with
    | [] => some { w with words := w.words ++ [word] }
    | '.' :: _ =>
      if digits.isEmpty ∨ 6 < w.words.length then none
      else (dottedWords? cs).map fun two => { w with words := w.words ++ two }
    | ':' :: rest =>
      if rest.isEmpty then none else readWords fuel { w with words := w.words ++ [word] } rest
    | _ => none

/-- The words of an address between brackets. -/
def eightWords? (cs : List Char) : Option (List Nat) :=
  match cs with
  | [] | [_] => none
  | ':' :: ':' :: rest => readWords 7 { words := [0], gap := some 1 } rest >>= Words.fill
  | ':' :: _ => none
  | _ => readWords 8 {} cs >>= Words.fill

/-- The longest run of zeros: where it starts, and its length; of equal ones the first. -/
def longestZeros (i : Nat) : List Nat → Nat × Nat
  | [] => (i, 0)
  | w :: ws =>
    let later := longestZeros (i + 1) ws
    let here := ((w :: ws).takeWhile (· == 0)).length
    if later.2 ≤ here then (i, here) else later

/-- A word as hexadecimal digits. -/
def wordText (n : Nat) : List Char := Nat.toDigits 16 n

/-- An address of eight words as text, the longest run of two zeros and more left out. -/
def eightWordsText (words : List Nat) : List Char :=
  let (start, length) := longestZeros 0 words
  let join (ws : List Nat) : List Char := [':'].intercalate (ws.map wordText)
  if length < 2 then join words
  else join (words.take start) ++ [':', ':'] ++ join (words.drop (start + length))

/-! ## Hosts -/

namespace Host

/-- Reads an address between brackets. -/
def parseBracketed (cs : List Char) : Except ParseError Host :=
  if cs.getLast? = some ']' then
    match eightWords? (cs.drop 1).dropLast with
    | some words => .ok (.eightWords words)
    | none => .error .eightWords
  else .error .eightWords

/-- Reads a domain name, or an address of four bytes. -/
def parseDomain (cs : List Char) : Except ParseError Host :=
  match Utf8.decode (Percent.decode (Utf8.encode (String.ofList cs))) >>=
      (Domain.toAscii? ·.toList) with
  | none => .error .domainName
  | some name =>
    if name.isEmpty then .error .emptyHost
    else if endsInNumber name then
      match fourBytes? name with
      | some n => .ok (.fourBytes n)
      | none => .error .fourBytes
    else .ok (.domain (String.ofList name))

/-- **Reads a host** of a scheme of the web. -/
def parse (cs : List Char) : Except ParseError Host :=
  if cs.head? = some '[' then parseBracketed cs else parseDomain cs

/-- Whether a character would end the host of any scheme. -/
def isEnding (c : Char) : Bool :=
  c.toNat == 0 || "\t\n\r #/:<>?@[\\]^|".toList.contains c

/-- Whether a byte of the host of another scheme stands for itself. -/
def keeps (b : UInt8) : Bool := 0x20 ≤ b && b ≤ 0x7e

/-- Reads a host of any other scheme. -/
def parseOther (cs : List Char) : Except ParseError Host :=
  if cs.head? = some '[' then parseBracketed cs
  else if cs.any isEnding then .error .hostCharacter
  else
    .ok (.domain (String.ofList (Percent.encode keeps (Utf8.encode (String.ofList cs)))))

/-- The host as text. -/
def text : Host → String
  | .domain name => name
  | .fourBytes n => String.ofList (fourBytesText n)
  | .eightWords words => String.ofList ('[' :: eightWordsText words ++ [']'])

end Host

end RegistryProxy.Url
