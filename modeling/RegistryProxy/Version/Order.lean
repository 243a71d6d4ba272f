import RegistryProxy.Binary64.Decimal
import RegistryProxy.Text.Blank
import RegistryProxy.Version.Parser

/-!
# Version/Order — precedence of versions

`Version.compare` orders by the three numbers, puts a prerelease below its release, and compares
prereleases identifier by identifier.  Build metadata has no say, so versions that compare equal may
differ; `Version.sort` orders those by their spelling.
-/

namespace RegistryProxy.Version

/-- The value of an identifier that is a number of 64 bits; a plus in front is allowed. -/
def wordValue? (ident : String) : Option Nat :=
  let digits := match ident.toList with
    | '+' :: rest => rest
    | cs => cs
  let value := Decimal.digitsValue digits
  if !digits.isEmpty && digits.all Char.isDigit && decide (value < 0x10000000000000000) then
    some value
  else none

/-- Compares identifiers: numbers by value and below all others, the others by character codes. -/
def compareIdentifier (x y : String) : Ordering :=
  match wordValue? x, wordValue? y with
  | some m, some n => Ord.compare m n
  | some _, none => .lt
  | none, some _ => .gt
  | none, none => Ord.compare x y

/-- Compares lists of identifiers from the left; a list that runs out comes first. -/
def compareIdentifiers : List String → List String → Ordering
  | [], [] => .eq
  | [], _ :: _ => .lt
  | _ :: _, [] => .gt
  | x :: xs, y :: ys => (compareIdentifier x y).then (compareIdentifiers xs ys)

/-- The identifiers of a prerelease. -/
def identifiers (pre : String) : List String := (Text.splitAt '.' pre.toList).map String.ofList

/-- Compares prereleases; having none comes last. -/
def comparePrerelease : Option String → Option String → Ordering
  | none, none => .eq
  | some _, none => .lt
  | none, some _ => .gt
  | some a, some b => compareIdentifiers (identifiers a) (identifiers b)

/-- **Compares versions by precedence.** -/
def compare (a b : Version) : Ordering :=
  (Ord.compare a.major b.major).then <|
    (Ord.compare a.minor b.minor).then <|
      (Ord.compare a.patch b.patch).then <|
        comparePrerelease a.prerelease b.prerelease

instance : Ord Version := ⟨compare⟩

/-- Whether neither version precedes the other. -/
def samePrecedence (a b : Version) : Bool := compare a b == .eq

/-- The order of `sort`: precedence first, spelling second. -/
def compareSpelled (a b : Version × String) : Ordering :=
  (compare a.1 b.1).then (Ord.compare a.2 b.2)

/-- **The texts that are versions, in order of precedence**; equal ones in order of their
spelling. -/
def sort (texts : List String) : List String :=
  let versions := texts.filterMap fun s => (parse? s).map fun v => (v, s)
  (versions.mergeSort fun a b => compareSpelled a b != .gt).map Prod.snd

end RegistryProxy.Version
