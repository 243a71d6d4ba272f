import RegistryProxy.Binary64.Basic

/-!
# Binary64/Decimal — decimal texts as double precision numbers, and back

`Magnitude.ofDecimal` gives the magnitude nearest to `digits · 10 ^ power`.  `Magnitude.shortest`
goes back: the fewest digits that `ofDecimal` reads as the same magnitude, and of those the ones
nearest to it.
-/

namespace RegistryProxy

namespace Decimal

/-- The decimal digits of a text, most significant first. -/
def digitsValue (cs : List Char) : Nat := cs.foldl (fun n c => n * 10 + (c.toNat - '0'.toNat)) 0

theorem digitsValue_eq (cs : List Char) : digitsValue cs = Nat.ofDigitChars 10 cs 0 := by
  simp only [digitsValue, Nat.ofDigitChars, Nat.mul_comm 10]

/-- The text of a natural number in decimal digits. -/
def digitsText (n : Nat) : List Char := Nat.toDigits 10 n

end Decimal

namespace Magnitude

/-- `10 ^ k` for a `k` that is not negative, else one. -/
def tenPow (k : Int) : Nat := Nat.pow 10 k.toNat

/-- **The magnitude nearest to `digits · 10 ^ power`**, ties to the even significand.  A power so
large or so small that the digits cannot matter is not computed. -/
def ofDecimal (digits : Nat) (power : Int) : Magnitude :=
  let places : Int := (Decimal.digitsText digits).length
  if digits = 0 then zero
  else if 400 < places + power then .infinite
  else if places + power < -400 then zero
  else ofRatio (digits * tenPow power) (tenPow (-power))

/-- The decimal places before the point of a positive quotient: the least `k` with
`num / den < 10 ^ k`. -/
def decimalPlaces (num den : Nat) : Int :=
  let guess : Int := (Decimal.digitsText num).length - (Decimal.digitsText den).length
  if num * tenPow (-guess) < den * tenPow guess then guess else guess + 1

/-- The number of grid points `10 ^ power` below `num / den`, and the two neighbours of `num / den`
on that grid that read back as `m`, nearest first. -/
def readingBack (m : Magnitude) (num den : Nat) (power : Int) : Option Nat :=
  let n := num * tenPow (-power)
  let d := den * tenPow power
  let below := n / d
  let above := below + 1
  let near := if 2 * (n % d) < d ∨ (2 * (n % d) = d ∧ below % 2 = 0) then below else above
  let far := if near = below then above else below
  if ofDecimal near power = m then some near
  else if ofDecimal far power = m then some far
  else none

/-- The first grid of `count` and more digits with a point that reads back as `m`. -/
def shortestFrom (m : Magnitude) (num den : Nat) (places : Int) : Nat → Nat → Nat × Int
  | _, 0 => (0, 0)
  | count, fuel + 1 =>
    let power := places - count
    match readingBack m num den power with
    | some digits => (digits, power)
    | none => shortestFrom m num den places (count + 1) fuel

/-- Drops the zeros at the end of the digits. -/
def dropZeros : Nat → Nat → Int → Nat × Int
  | 0, digits, power => (digits, power)
  | fuel + 1, digits, power =>
    if digits % 10 = 0 ∧ digits ≠ 0 then dropZeros fuel (digits / 10) (power + 1)
    else (digits, power)

/-- **The shortest decimal that reads back**: digits without a zero at the end and a power of ten.
Seventeen digits are always enough. -/
def shortest (significand : Nat) (exponent : Int) : Nat × Int :=
  if significand = 0 then (0, 0)
  else
    let (num, den) := ratio significand exponent
    let (digits, power) :=
      shortestFrom (.finite significand exponent) num den (decimalPlaces num den) 1 17
    dropZeros 20 digits power

/-- A decimal written with a point and without an exponent; no point when there is no fraction. -/
def positional (digits : Nat) (power : Int) : List Char :=
  let ds := Decimal.digitsText digits
  if 0 ≤ power then
    if digits = 0 then ['0'] else ds ++ List.replicate power.toNat '0'
  else
    let places := (-power).toNat
    if places < ds.length then
      ds.take (ds.length - places) ++ '.' :: ds.drop (ds.length - places)
    else
      '0' :: '.' :: List.replicate (places - ds.length) '0' ++ ds

/-- A decimal with one digit before the point and an exponent. -/
def scientific (digits : Nat) (power : Int) : List Char :=
  let ds := Decimal.digitsText digits
  let exponent : Int := power + ds.length - 1
  let sign := if exponent < 0 then ['-'] else []
  let tail := 'e' :: sign ++ Decimal.digitsText exponent.natAbs
  match ds with
  | [] => '0' :: tail
  | [d] => d :: tail
  | d :: rest => d :: '.' :: rest ++ tail

end Magnitude

namespace Binary64

/-- The number as text for a reader: shortest digits, never an exponent, no fraction unless there is
one. -/
def display : Binary64 → String
  | .nan => "NaN"
  | .signed negative m =>
    let sign := if negative then "-" else ""
    match m with
    | .infinite => sign ++ "inf"
    | .finite a i =>
      let (digits, power) := Magnitude.shortest a i
      sign ++ String.ofList (Magnitude.positional digits power)

/-- The digits of a finite magnitude as a document writes them: positional with at least one place
after the point while the point stands within the first sixteen digits or at most five zeros before
them, else with an exponent. -/
def documentDigits (digits : Nat) (power : Int) : List Char :=
  let point : Int := power + (Decimal.digitsText digits).length
  if digits = 0 then ['0', '.', '0']
  else if -5 < point ∧ point ≤ 16 then
    let text := Magnitude.positional digits power
    if 0 ≤ power then text ++ ['.', '0'] else text
  else Magnitude.scientific digits power

/-- The number as a document writes it; there is no such text for numbers that are not finite. -/
def documentText : Binary64 → Option (List Char)
  | .signed negative (.finite a i) =>
    let (digits, power) := Magnitude.shortest a i
    some ((if negative then ['-'] else []) ++ documentDigits digits power)
  | _ => none

/-- The parts of a decimal text: digits before and after the point, and the exponent with its sign
(true for minus).  Digits may be missing on one side of the point. -/
def readDecimal (cs : List Char) : Option (List Char × List Char × Bool × List Char) :=
  let whole := cs.takeWhile Char.isDigit
  let rest := cs.dropWhile Char.isDigit
  let (fraction, rest) := match rest with
    | '.' :: rest => (rest.takeWhile Char.isDigit, rest.dropWhile Char.isDigit)
    | _ => ([], rest)
  if whole.isEmpty && fraction.isEmpty then none
  else
    match rest with
    | [] => some (whole, fraction, false, ['0'])
    | e :: rest =>
      let (minus, digits) := match rest with
        | '-' :: digits => (true, digits)
        | '+' :: digits => (false, digits)
        | _ => (false, rest)
      if (e == 'e' || e == 'E') && !digits.isEmpty && digits.all Char.isDigit then
        some (whole, fraction, minus, digits)
      else none

/-- The magnitude a text spells: `inf`, `infinity` in any case, or a decimal. -/
def magnitudeOfText? (cs : List Char) : Option Magnitude :=
  let lowered := cs.map Char.toLower
  if lowered = "inf".toList ∨ lowered = "infinity".toList then some .infinite
  else do
    let (whole, fraction, minus, exponent) ← readDecimal cs
    let exponent : Int := Decimal.digitsValue exponent
    let power := (if minus then -exponent else exponent) - (fraction.length : Int)
    return .ofDecimal (Decimal.digitsValue (whole ++ fraction)) power

/-- **The double a text spells**, rounded to nearest; a sign may stand in front. -/
def ofText? (s : String) : Option Binary64 :=
  let (negative, cs) := match s.toList with
    | '-' :: cs => (true, cs)
    | '+' :: cs => (false, cs)
    | cs => (false, cs)
  if cs.map Char.toLower = "nan".toList then some .nan
  else (magnitudeOfText? cs).map (.signed negative)

end Binary64

end RegistryProxy
