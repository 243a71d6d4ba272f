/-!
# Url/Punycode — labels of any characters in ASCII

A label is written as its ASCII characters, a hyphen, and the places of all others as a list of
differences in base 36, where the value of a digit depends on how large the last differences were.
-/

namespace RegistryProxy.Punycode

/-- The digit with a value below 36. -/
def digit (n : Nat) : Char := Char.ofNat (if n < 26 then 0x61 + n else 0x30 + (n - 26))

/-- The value of a digit. -/
def digitValue? (c : Char) : Option Nat :=
  if 'a' ≤ c ∧ c ≤ 'z' then some (c.toNat - 0x61)
  else if 'A' ≤ c ∧ c ≤ 'Z' then some (c.toNat - 0x41)
  else if '0' ≤ c ∧ c ≤ '9' then some (c.toNat - 0x30 + 26)
  else none

/-- The value from which on a digit at place `k` is not the last one. -/
def threshold (k bias : Nat) : Nat := max 1 (min 26 (k - bias))

/-- Divides by 35 while the difference is large, and counts the places. -/
def shrink (fuel delta k : Nat) : Nat × Nat :=
  match fuel with
  | 0 => (delta, k)
  | fuel + 1 => if 455 < delta then shrink fuel (delta / 35) (k + 36) else (delta, k)

/-- The bias after a difference; `count` characters have been placed. -/
def adapt (delta count : Nat) (first : Bool) : Nat :=
  let delta := if first then delta / 700 else delta / 2
  let (delta, k) := shrink delta (delta + delta / count) 0
  k + 36 * delta / (delta + 38)

/-- A difference as digits. -/
def encodeNumber (fuel bias k q : Nat) : List Char :=
  match fuel with
  | 0 => []
  | fuel + 1 =>
    let t := threshold k bias
    if q < t then [digit q]
    else digit (t + (q - t) % (36 - t)) :: encodeNumber fuel bias (k + 36) ((q - t) / (36 - t))

/-- What is carried from one character to the next. -/
structure Progress where
  /-- The text so far. -/
  text : List Char
  /-- The difference so far. -/
  delta : Nat := 0
  /-- The bias. -/
  bias : Nat := 72
  /-- How many characters have been placed. -/
  placed : Nat

/-- Looks at one character while those with code `code` are placed; `basic` characters are ASCII. -/
def place (basic code : Nat) (p : Progress) (c : Char) : Progress :=
  if c.toNat < code then { p with delta := p.delta + 1 }
  else if c.toNat = code then {
    text := p.text ++ encodeNumber (p.delta + 1) p.bias 36 p.delta
    delta := 0
    bias := adapt p.delta (p.placed + 1) (p.placed == basic)
    placed := p.placed + 1 }
  else p

/-- Places all characters, those with the smallest codes first. -/
def placeAll (input : List Char) (basic : Nat) (lowest : Nat) (p : Progress) : List Nat → Progress
  | [] => p
  | code :: codes =>
    let p := { p with delta := p.delta + (code - lowest) * (p.placed + 1) }
    let p := input.foldl (place basic code) p
    placeAll input basic (code + 1) { p with delta := p.delta + 1 } codes

/-- Whether a character is ASCII. -/
def isBasic (c : Char) : Bool := c.toNat < 0x80

/-- **A label in ASCII**, without the mark that says so. -/
def encode (label : List Char) : List Char :=
  let basic := label.filter isBasic
  let codes := ((label.filter fun c => !isBasic c).map Char.toNat).mergeSort.eraseDups
  let start := if basic.isEmpty then [] else basic ++ ['-']
  (placeAll label basic.length 0x80 { text := start, placed := basic.length } codes).text

/-- Reads a difference: its value and the rest. -/
def decodeNumber (bias : Nat) : List Char → (k weight value : Nat) → Option (Nat × List Char)
  | [], _, _, _ => none
  | c :: rest, k, weight, value => do
    let d ← digitValue? c
    let t := threshold k bias
    if d < t then some (value + d * weight, rest)
    else decodeNumber bias rest (k + 36) (weight * (36 - t)) (value + d * weight)

/-- Places the characters of all differences into `done`. -/
def decodeAll (fuel code i bias : Nat) (done input : List Char) : Option (List Char) :=
  match fuel, input with
  | _, [] => some done
  | 0, _ => none
  | fuel + 1, input => do
    let (next, rest) ← decodeNumber bias input 36 1 i
    let count := done.length + 1
    let code := code + next / count
    guard (code < 0x110000 ∧ ¬ (0xd800 ≤ code ∧ code < 0xe000))
    let done := done.insertIdx (next % count) (Char.ofNat code)
    decodeAll fuel code (next % count + 1) (adapt (next - i) count (i == 0)) done rest

/-- **The label that an ASCII text stands for.** -/
def decode (text : List Char) : Option (List Char) :=
  let tail := (text.reverse.takeWhile (· != '-')).reverse
  let basic := text.take (text.length - tail.length - 1)
  if basic.all isBasic then decodeAll tail.length 0x80 0 72 basic tail else none

end RegistryProxy.Punycode
