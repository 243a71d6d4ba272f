import RegistryProxy.Text.CombiningClass
import RegistryProxy.Text.Decomposition

/-!
# Text/Composition — one way to write what looks the same

A letter with marks can be written in one character or in several, and the marks in more than one
order.  `Text.composed` takes all characters apart, puts marks in the order of their classes and
puts together what belongs together, so that texts that look the same become equal.
-/

namespace RegistryProxy.Text

/-! ## Syllables

The syllables of the Korean script are composed by counting: a leading letter, a vowel and maybe a
trailing letter. -/

/-- The code of the first syllable. -/
def firstSyllable : Nat := 0xac00

/-- The code of the first leading letter. -/
def firstLeading : Nat := 0x1100

/-- The code of the first vowel. -/
def firstVowel : Nat := 0x1161

/-- The code in front of the first trailing letter. -/
def noTrailing : Nat := 0x11a7

/-- Whether a code is that of a syllable. -/
def isSyllable (n : Nat) : Bool := firstSyllable ≤ n && n < firstSyllable + 19 * 21 * 28

/-- The letters of a syllable. -/
def syllableLetters (n : Nat) : List Nat :=
  let i := n - firstSyllable
  let front := [firstLeading + i / (21 * 28), firstVowel + i / 28 % 21]
  if i % 28 = 0 then front else front ++ [noTrailing + i % 28]

/-- The syllable of a leading letter and a vowel, or of one without a trailing letter and one. -/
def syllable? (a b : Nat) : Option Nat :=
  if firstLeading ≤ a ∧ a < firstLeading + 19 ∧ firstVowel ≤ b ∧ b < firstVowel + 21 then
    some (firstSyllable + ((a - firstLeading) * 21 + (b - firstVowel)) * 28)
  else if isSyllable a ∧ (a - firstSyllable) % 28 = 0 ∧ noTrailing < b ∧ b < noTrailing + 28 then
    some (a + (b - noTrailing))
  else none

/-! ## Taking apart -/

/-- The deepest composition. -/
def deepest : Nat := 4

/-- What a code is taken apart to, `depth` times at most. -/
def parts (depth : Nat) (n : Nat) : List Nat :=
  match depth with
  | 0 => [n]
  | depth + 1 =>
    if isSyllable n then syllableLetters n
    else
      match sequences.get? n, pairs.get? n with
      | some codes, _ => codes
      | none, some [a, b] => parts depth a ++ [b]
      | none, _ => [n]

/-- Puts a code in front of others, and behind those that belong before it. -/
def arrange (n : Nat) : List Nat → List Nat
  | [] => [n]
  | m :: rest =>
    if 0 < combiningClass m ∧ combiningClass m < combiningClass n then m :: arrange n rest
    else n :: m :: rest

/-- All codes taken apart, marks in the order of their classes. -/
def decomposed (codes : List Nat) : List Nat := (codes.flatMap (parts deepest)).foldr arrange []

/-! ## Putting together -/

/-- The code for two together. -/
def together? (a b : Nat) : Option Nat := (syllable? a b).or (pairs.source? [a, b])

/-- Puts codes together with `base`, from which `held` stand apart.  One whose class is not greater
than that of the last of these does not touch `base`. -/
def compose (base : Nat) (held : List Nat) : List Nat → List Nat
  | [] => base :: held
  | n :: rest =>
    let touches := held.getLast?.all fun m => combiningClass m < combiningClass n
    match if touches then together? base n else none with
    | some m => compose m held rest
    | none =>
      if combiningClass n = 0 then base :: held ++ compose n [] rest
      else compose base (held ++ [n]) rest

/-- Puts codes together, from the first one on that marks can be put around. -/
def composeAll : List Nat → List Nat
  | [] => []
  | n :: rest => if combiningClass n = 0 then compose n [] rest else n :: composeAll rest

/-- **A text in the one way it is written.**  Nothing in front of the first mark changes alone. -/
def composed (cs : List Char) : List Char :=
  if cs.all fun c => c.toNat < firstCombining then cs
  else (composeAll (decomposed (cs.map Char.toNat))).map Char.ofNat

end RegistryProxy.Text
