/-!
# Binary64/Basic — double precision numbers in exact arithmetic

A finite magnitude is `significand · 2 ^ exponent` with at most 53 significant bits.  Every
operation is the exact quotient of two integers, rounded to the nearest magnitude with ties going to
the even significand, so a law about an operation is a law about `Nat`.
-/

namespace RegistryProxy

/-- A double precision number without its sign. -/
inductive Magnitude where
  /-- `significand · 2 ^ exponent`. -/
  | finite (significand : Nat) (exponent : Int)
  /-- Beyond every finite magnitude. -/
  | infinite
  deriving DecidableEq, Repr

/-- A double precision number. -/
inductive Binary64 where
  /-- A magnitude with its sign; zero has two. -/
  | signed (negative : Bool) (magnitude : Magnitude)
  /-- Not a number. -/
  | nan
  deriving DecidableEq, Repr

namespace Magnitude

/-- The exponent of the smallest magnitudes. -/
def minExponent : Int := -1074

/-- The exponent of the largest finite magnitudes. -/
def maxExponent : Int := 971

/-- `2 ^ k` for a `k` that is not negative, else one. -/
def twoPow (k : Int) : Nat := Nat.pow 2 k.toNat

/-- The quotient to the nearest integer, ties to the even one. -/
def divEven (num den : Nat) : Nat :=
  let q := num / den
  let r := num % den
  if 2 * r < den then q
  else if den < 2 * r then q + 1
  else if q % 2 = 0 then q
  else q + 1

/-- `num / den` in units of `2 ^ exponent`, to the nearest unit. -/
def unitsAt (num den : Nat) (exponent : Int) : Nat :=
  divEven (num * twoPow (-exponent)) (den * twoPow exponent)

/-- The exponent at which `num / den` has 53 bits before the point, but not below the smallest. -/
def exponentOf (num den : Nat) : Int :=
  let guess : Int := (num.log2 : Int) - (den.log2 : Int) - 52
  let fits := den * twoPow guess * 0x10000000000000 ≤ num * twoPow (-guess)
  max minExponent (if fits then guess else guess - 1)

/-- **The magnitude nearest to `num / den`**, ties to the even significand. -/
def ofRatio (num den : Nat) : Magnitude :=
  if num = 0 then .finite 0 minExponent
  else
    let exponent := exponentOf num den
    let units := unitsAt num den exponent
    let (units, exponent) :=
      if units = 0x20000000000000 then (0x10000000000000, exponent + 1) else (units, exponent)
    if maxExponent < exponent then .infinite else .finite units exponent

/-- Zero. -/
def zero : Magnitude := .finite 0 minExponent

/-- The magnitude nearest to a natural number. -/
def ofNat (n : Nat) : Magnitude := ofRatio n 1

/-- The exact value of a finite magnitude as a quotient of two integers. -/
def ratio (significand : Nat) (exponent : Int) : Nat × Nat :=
  (significand * twoPow exponent, twoPow (-exponent))

/-- The sum, rounded. -/
def add : Magnitude → Magnitude → Magnitude
  | .finite a i, .finite b j =>
    let (n, d) := ratio a i
    let (m, e) := ratio b j
    ofRatio (n * e + m * d) (d * e)
  | _, _ => .infinite

/-- The product, rounded; the infinite magnitude is never multiplied by zero here. -/
def mul : Magnitude → Magnitude → Magnitude
  | .finite a i, .finite b j =>
    let (n, d) := ratio a i
    let (m, e) := ratio b j
    ofRatio (n * m) (d * e)
  | _, _ => .infinite

/-- The quotient by a finite magnitude that is not zero, rounded. -/
def div : Magnitude → Magnitude → Magnitude
  | .finite a i, .finite b j =>
    let (n, d) := ratio a i
    let (m, e) := ratio b j
    ofRatio (n * e) (d * m)
  | _, _ => .infinite

instance : Add Magnitude := ⟨add⟩

instance : Mul Magnitude := ⟨mul⟩

instance : Div Magnitude := ⟨div⟩

/-- Whether a magnitude is zero. -/
def isZero : Magnitude → Bool
  | .finite a _ => a == 0
  | .infinite => false

/-- The nearest natural number, halves going up; none for the infinite magnitude. -/
def roundHalfUp : Magnitude → Option Nat
  | .finite a i =>
    let (n, d) := ratio a i
    some ((2 * n + d) / (2 * d))
  | .infinite => none

end Magnitude

namespace Binary64

/-- The double nearest to an integer. -/
def ofInt (n : Int) : Binary64 := .signed (n < 0) (.ofNat n.natAbs)

/-- Whether the number is at least a natural number. -/
def isAtLeast (x : Binary64) (n : Nat) : Bool :=
  match x with
  | .signed false .infinite => true
  | .signed false (.finite a i) => n * (Magnitude.ratio a i).2 ≤ (Magnitude.ratio a i).1
  | .signed true (.finite a _) => n == 0 && a == 0
  | _ => false

/-- The number with the other sign. -/
def neg : Binary64 → Binary64
  | .signed negative m => .signed (!negative) m
  | .nan => .nan

end Binary64

end RegistryProxy
