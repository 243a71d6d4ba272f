import RegistryProxy.Binary64.Decimal

/-!
# Duration — spans of time to the nanosecond

A `Duration` is a count of nanoseconds with less than `2 ^ 64` seconds.
-/

namespace RegistryProxy

/-- A span of time. -/
structure Duration where
  /-- The span in nanoseconds. -/
  nanoseconds : Nat
  deriving DecidableEq, Repr

namespace Duration

/-- The nanoseconds of a second. -/
def perSecond : Nat := 1000000000

/-- A span of whole seconds. -/
def ofSeconds (n : Nat) : Duration := ⟨n * perSecond⟩

/-- A span of whole milliseconds. -/
def ofMilliseconds (n : Nat) : Duration := ⟨n * 1000000⟩

/-- Writes a number with at least `width` digits. -/
def padded (width n : Nat) : List Char :=
  let ds := Decimal.digitsText n
  List.replicate (width - ds.length) '0' ++ ds

/-- The span in seconds with nine places. -/
def text (d : Duration) : String :=
  String.ofList (Decimal.digitsText (d.nanoseconds / perSecond) ++
    '.' :: padded 9 (d.nanoseconds % perSecond))

/-- A whole number of units with the fraction that remains, its last zeros dropped. -/
def inUnit (unit : Nat) (places : Nat) (suffix : String) (n : Nat) : String :=
  let fraction := (padded places (n % unit)).reverse.dropWhile (· == '0') |>.reverse
  let whole := Decimal.digitsText (n / unit)
  String.ofList (if fraction.isEmpty then whole else whole ++ '.' :: fraction) ++ suffix

/-- The span in its largest unit of seconds, milliseconds, microseconds or nanoseconds. -/
def display (d : Duration) : String :=
  let n := d.nanoseconds
  if perSecond ≤ n then inUnit perSecond 9 "s" n
  else if 1000000 ≤ n then inUnit 1000000 6 "ms" n
  else if 1000 ≤ n then inUnit 1000 3 "µs" n
  else Nat.repr n ++ "ns"

/-- The span of a double of seconds, to the nearest nanosecond, ties to the even one; none below
zero, at `2 ^ 64` seconds and above, and for what is no number.  Minus zero is zero. -/
def ofSeconds? : Binary64 → Option Duration
  | .signed negative (.finite a i) =>
    if negative && a != 0 then none
    else
      let (n, d) := Magnitude.ratio a i
      if n < 0x10000000000000000 * d then
        let nanoseconds := Magnitude.divEven (n * perSecond) d
        if nanoseconds < 0x10000000000000000 * perSecond then some ⟨nanoseconds⟩ else none
      else none
  | _ => none

end Duration

end RegistryProxy
