import RegistryProxy.Binary64.Decimal

/-!
# Toml/Scalar — numbers, moments and truth values

`Scalar.read?` takes the one that stands in front.  The first characters decide which one it is:
what opens like a date, a time, a fraction or a power has to go on like one.  Digits may be grouped
by single low lines; integers have 64 bits; moments are kept as text in their normal form.
-/

namespace RegistryProxy.Toml

/-- A value that stands in one piece. -/
inductive Scalar where
  /-- A text. -/
  | text (value : String)
  /-- An integer of 64 bits. -/
  | integer (value : Int)
  /-- A double. -/
  | real (value : Binary64)
  /-- A truth value. -/
  | truth (value : Bool)
  /-- A date, a time or both, in its normal form. -/
  | moment (text : String)
  deriving DecidableEq

namespace Scalar

/-- Drops a text in front. -/
def after? (text : List Char) (cs : List Char) : Option (List Char) :=
  if text.isPrefixOf cs then some (cs.drop text.length) else none

/-- Takes a sign: whether it is a minus. -/
def sign : List Char → Bool × List Char
  | '-' :: cs => (true, cs)
  | '+' :: cs => (false, cs)
  | cs => (false, cs)

/-! ## Digits -/

/-- More digits, low lines between them dropped; a low line has to have a digit behind it. -/
def moreDigits? (p : Char → Bool) : List Char → Option (List Char × List Char)
  | ['_'] => none
  | '_' :: c :: cs =>
    if p c then (moreDigits? p cs).map fun (ds, rest) => (c :: ds, rest) else none
  | c :: cs =>
    if p c then (moreDigits? p cs).map fun (ds, rest) => (c :: ds, rest) else some ([], c :: cs)
  | [] => some ([], [])

/-- One digit and more. -/
def digits? (p : Char → Bool) : List Char → Option (List Char × List Char)
  | c :: cs => if p c then (moreDigits? p cs).map fun (ds, rest) => (c :: ds, rest) else none
  | [] => none

/-- Digits of a whole number: a zero in front stands alone. -/
def whole? : List Char → Option (List Char × List Char)
  | '0' :: cs => some (['0'], cs)
  | cs => digits? Char.isDigit cs

/-! ## Integers -/

/-- The value of a digit in any base up to sixteen. -/
def digitValue (c : Char) : Nat :=
  if c.isDigit then c.toNat - '0'.toNat
  else if 'a' ≤ c then c.toNat - 'a'.toNat + 10
  else c.toNat - 'A'.toNat + 10

/-- Whether a character is a hexadecimal digit. -/
def isHexDigit (c : Char) : Bool :=
  c.isDigit || ('a' ≤ c && c ≤ 'f') || ('A' ≤ c && c ≤ 'F')

/-- The value of digits. -/
def digitsValue (base : Nat) (ds : List Char) : Nat :=
  ds.foldl (fun n c => n * base + digitValue c) 0

/-- An integer, when it has 64 bits. -/
def bounded? (n : Int) : Option Scalar :=
  if -0x8000000000000000 ≤ n ∧ n < 0x8000000000000000 then some (.integer n) else none

/-- An integer in another base than ten. -/
def based? (mark : List Char) (base : Nat) (p : Char → Bool) (cs : List Char) :
    Option (Scalar × List Char) := do
  let cs ← after? mark cs
  let (ds, rest) ← digits? p cs
  return (← bounded? (digitsValue base ds), rest)

/-! ## Doubles -/

/-- The digits behind a point; there may be none without one. -/
def fraction? : List Char → Option (List Char × List Char)
  | '.' :: cs => digits? Char.isDigit cs
  | cs => some ([], cs)

/-- The power of ten behind the letter for it; zero without one. -/
def exponent? : List Char → Option (Int × List Char)
  | 'e' :: cs | 'E' :: cs => do
    let (minus, cs) := sign cs
    let (ds, rest) ← digits? Char.isDigit cs
    let n : Int := digitsValue 10 ds
    return (if minus then -n else n, rest)
  | cs => some (0, cs)

/-- A double whose whole digits have been read; one above all doubles is none. -/
def real? (minus : Bool) (ds cs : List Char) : Option (Scalar × List Char) := do
  let (fraction, rest) ← fraction? cs
  let (power, rest) ← exponent? rest
  let x : Binary64 :=
    .signed minus (.ofDecimal (digitsValue 10 (ds ++ fraction)) (power - fraction.length))
  if x = .signed false .infinite then none else some (.real x, rest)

/-- A number in base ten: an integer, unless a point or a power follows its digits. -/
def decimal? (cs : List Char) : Option (Scalar × List Char) := do
  let (minus, cs) := sign cs
  let (ds, rest) ← whole? cs
  match rest with
  | '.' :: _ | 'e' :: _ | 'E' :: _ => real? minus ds rest
  | _ =>
    let n : Int := digitsValue 10 ds
    return (← bounded? (if minus then -n else n), rest)

/-- **A number in digits**; the base is told by two characters. -/
def number? (cs : List Char) : Option (Scalar × List Char) :=
  match cs with
  | '0' :: 'x' :: _ => based? ['0', 'x'] 16 isHexDigit cs
  | '0' :: 'o' :: _ => based? ['0', 'o'] 8 (fun c => '0' ≤ c && c ≤ '7') cs
  | '0' :: 'b' :: _ => based? ['0', 'b'] 2 (fun c => c == '0' || c == '1') cs
  | _ => decimal? cs

/-- A double that has a name. -/
def named? (cs : List Char) : Option (Scalar × List Char) :=
  let (minus, cs) := sign cs
  match after? ['i', 'n', 'f'] cs, after? ['n', 'a', 'n'] cs with
  | some rest, _ => some (.real (.signed minus .infinite), rest)
  | none, some rest => some (.real .nan, rest)
  | none, none => none

/-! ## Moments -/

/-- A number of `n` digits between two bounds. -/
def field? (n low high : Nat) (cs : List Char) : Option (List Char × List Char) :=
  let ds := cs.take n
  let value := digitsValue 10 ds
  if ds.length = n ∧ ds.all Char.isDigit ∧ low ≤ value ∧ value ≤ high then some (ds, cs.drop n)
  else none

/-- The days of a month. -/
def daysIn (year month : Nat) : Nat :=
  if month = 2 then
    if year % 4 = 0 ∧ (year % 100 ≠ 0 ∨ year % 400 = 0) then 29 else 28
  else if [4, 6, 9, 11].contains month then 30
  else 31

/-- A date. -/
def date? (cs : List Char) : Option (List Char × List Char) := do
  let (year, cs) ← field? 4 0 9999 cs
  let cs ← after? ['-'] cs
  let (month, cs) ← field? 2 1 12 cs
  let cs ← after? ['-'] cs
  let (day, cs) ← field? 2 1 (daysIn (digitsValue 10 year) (digitsValue 10 month)) cs
  return (year ++ '-' :: month ++ '-' :: day, cs)

/-- The fraction of a second, cut after nine digits and without zeros at the end. -/
def secondFraction (cs : List Char) : List Char × List Char :=
  match cs with
  | '.' :: rest =>
    let ds := rest.takeWhile Char.isDigit
    if ds.isEmpty then ([], cs)
    else
      let shown := ((ds.take 9).reverse.dropWhile (· == '0')).reverse
      (if shown.isEmpty then [] else '.' :: shown, rest.drop ds.length)
  | _ => ([], cs)

/-- A time. -/
def time? (cs : List Char) : Option (List Char × List Char) := do
  let (hour, cs) ← field? 2 0 23 cs
  let cs ← after? [':'] cs
  let (minute, cs) ← field? 2 0 59 cs
  let cs ← after? [':'] cs
  let (second, cs) ← field? 2 0 60 cs
  let (fraction, cs) := secondFraction cs
  return (hour ++ ':' :: minute ++ ':' :: second ++ fraction, cs)

/-- The offset of a time; without a mark of one there is none. -/
def offset? (cs : List Char) : Option (List Char × List Char) :=
  let shifted (mark : Char) (rest : List Char) : Option (List Char × List Char) := do
    let (hour, rest) ← field? 2 0 23 rest
    let rest ← after? [':'] rest
    let (minute, rest) ← field? 2 0 59 rest
    let shift := hour ++ ':' :: minute
    return ((if shift = "00:00".toList then '+' else mark) :: shift, rest)
  match cs with
  | 'Z' :: rest | 'z' :: rest => some (['Z'], rest)
  | '+' :: rest => shifted '+' rest
  | '-' :: rest => shifted '-' rest
  | _ => some ([], cs)

/-- Whether a number of `n` digits up to `high` stands in front of a mark. -/
def opens (n high : Nat) (mark : Char) (cs : List Char) : Bool :=
  (field? n 0 high cs).any fun (_, rest) => rest.head? == some mark

/-- Whether text has to be a date. -/
def opensDate (cs : List Char) : Bool := opens 4 9999 '-' cs

/-- Whether text has to be a time. -/
def opensTime (cs : List Char) : Bool := opens 2 23 ':' cs

/-- The time behind a date; there may be none. -/
def timeOfDay? (cs : List Char) : Option (List Char × List Char) :=
  match cs with
  | c :: rest =>
    if (c = 'T' ∨ c = 't' ∨ c = ' ') ∧ opensTime rest then do
      let (time, rest) ← time? rest
      let (shift, rest) ← offset? rest
      return ('T' :: time ++ shift, rest)
    else some ([], cs)
  | [] => some ([], [])

/-- **A moment.** -/
def moment? (cs : List Char) : Option (Scalar × List Char) := do
  let (shown, rest) ←
    if opensDate cs then do
      let (date, rest) ← date? cs
      let (time, rest) ← timeOfDay? rest
      pure (date ++ time, rest)
    else time? cs
  return (.moment (String.ofList shown), rest)

/-! ## All of them -/

/-- A truth value. -/
def truth? (cs : List Char) : Option (Scalar × List Char) :=
  match after? "true".toList cs, after? "false".toList cs with
  | some rest, _ => some (.truth true, rest)
  | none, some rest => some (.truth false, rest)
  | none, none => none

/-- **The value in front.** -/
def read? (cs : List Char) : Option (Scalar × List Char) :=
  if opensDate cs || opensTime cs then moment? cs
  else ((truth? cs).or (named? cs)).or (number? cs)

end Scalar

end RegistryProxy.Toml
