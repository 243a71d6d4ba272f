import RegistryProxy.Duration
import RegistryProxy.Error
import RegistryProxy.Json.Fields
import RegistryProxy.Text.Blank

/-!
# Interval — spans of time as settings spell them

A setting is a number of seconds or a text such as `1h 30m`: amounts with units that strictly
decrease from left to right.  An amount without a unit counts seconds and may only come first.  The
total is kept in milliseconds as a double and turned into whole nanoseconds at the end, so very long
intervals are rounded.
-/

namespace RegistryProxy.Interval

/-- The units with their milliseconds. -/
def units : List (String × Nat) :=
  [("ms", 1), ("s", 1000), ("m", 60000), ("h", 3600000), ("d", 86400000), ("w", 7 * 86400000),
    ("M", 30 * 86400000), ("y", 365 * 86400000)]

/-- The error for a value that is no interval. -/
def invalid (field value : String) : Error :=
  .configValidation field ("invalid interval: " ++ value)

/-- An amount as written: the digits before the point, the digits after it, and the rest. -/
structure Amount where
  /-- The digits before the point. -/
  whole : List Char
  /-- The digits after the point. -/
  fraction : List Char
  /-- What follows the number. -/
  suffix : List Char
  deriving DecidableEq

/-- Splits a part into its number and its unit.  The number has no leading zero and no point without
digits on both sides. -/
def Amount.read? (part : List Char) : Option Amount :=
  let whole := part.takeWhile Char.isDigit
  let rest := part.dropWhile Char.isDigit
  if whole.isEmpty || (1 < whole.length && whole.head? == some '0') then none
  else
    match rest with
    | '.' :: rest =>
      let fraction := rest.takeWhile Char.isDigit
      if fraction.isEmpty then none
      else some { whole, fraction, suffix := rest.dropWhile Char.isDigit }
    | suffix => some { whole, fraction := [], suffix }

/-- The number of an amount. -/
def Amount.number (a : Amount) : Magnitude :=
  .ofDecimal (Decimal.digitsValue (a.whole ++ a.fraction)) (-(a.fraction.length : Int))

/-- The unit of an amount after a part with unit `last`; without a suffix only the first part has
one. -/
def Amount.unit? (a : Amount) (last : Option Nat) : Option Nat :=
  if a.suffix.isEmpty then if last.isNone then some 1000 else none
  else units.lookup (String.ofList a.suffix)

/-- Adds up the parts from the left: the total of milliseconds so far and the last unit. -/
def total (sum : Magnitude) (last : Option Nat) : List (List Char) → Option Magnitude
  | [] => some sum
  | part :: parts => do
    let amount ← Amount.read? part
    let unit ← amount.unit? last
    guard (last.all fun l => unit < l)
    total (sum + amount.number * .ofNat unit) (some unit) parts

/-- A total of milliseconds in whole nanoseconds; none at `2 ^ 64` nanoseconds and above. -/
def ofTotal (milliseconds : Magnitude) : Option Duration :=
  match (milliseconds * .ofNat 1000000).roundHalfUp with
  | some n => if n < 0x10000000000000000 then some ⟨n⟩ else none
  | none => none

/-- The span that a text spells. -/
def parse? (text : String) : Option Duration :=
  total .zero none (Text.words text.toList) >>= ofTotal

/-- **The span that a text spells**, or the error for it. -/
def parse (text : String) : Except Error Duration :=
  match parse? text with
  | some d => .ok d
  | none => .error (invalid "interval" text)

/-- An interval as a setting holds it. -/
inductive Setting where
  /-- A number of seconds. -/
  | seconds (value : Binary64)
  /-- A text with units. -/
  | text (value : String)
  deriving DecidableEq

namespace Setting

/-- Reads a setting: any number, or any text. -/
def ofTree? (t : Json.Tree) : Option Setting :=
  match t.double? with
  | some x => some (.seconds x)
  | none => t.text?.map .text

/-- The setting as a document. -/
def document : Setting → Json
  | .seconds x => .number (.real x)
  | .text s => .string s

/-- **The span of a setting**; `field` is the setting to blame. -/
def toDuration (field : String) : Setting → Except Error Duration
  | .seconds x =>
    match Duration.ofSeconds? x with
    | some d => .ok d
    | none => .error (invalid field x.display)
  | .text s =>
    match parse? s with
    | some d => .ok d
    | none => .error (invalid field s)

end Setting

end RegistryProxy.Interval
