import RegistryProxy.Text.Blank

/-!
# Text/CodeTable — tables over the codes of characters

A table is written as entries between blanks, its codes in hexadecimal digits.  A `CodeSet` lists
codes and ranges of them: `300-36f 483`.  `Replacements` tell what codes are replaced by: all codes
of a range by the same (`1c7-1c9:6c.6a`), each by a code as far from the first one (`391-3a1=3b1`),
or every second one so (`100/12e=101`).
-/

namespace RegistryProxy.Text

/-- The value of a hexadecimal digit in lower case. -/
def hexDigit (c : Char) : Nat := if c.isDigit then c.toNat - 0x30 else c.toNat - 0x57

/-- The code that hexadecimal digits tell. -/
def hexCode (cs : List Char) : Nat := cs.foldl (fun n c => n * 16 + hexDigit c) 0

/-- The codes from a first to a last one. -/
structure CodeRange where
  /-- The first code. -/
  first : Nat
  /-- The last code. -/
  last : Nat
  deriving DecidableEq, Repr

namespace CodeRange

/-- Whether a code is in a range. -/
def contains (r : CodeRange) (n : Nat) : Bool := r.first ≤ n && n ≤ r.last

/-- The range with two codes, or a single code. -/
def ofText (mark : Char) (cs : List Char) : CodeRange :=
  match cutAt mark cs with
  | some (first, last) => ⟨hexCode first, hexCode last⟩
  | none => ⟨hexCode cs, hexCode cs⟩

end CodeRange

/-- The entries of a table. -/
def tableEntries (lines : List String) : List (List Char) := lines.flatMap fun l => words l.toList

/-- A set of codes. -/
abbrev CodeSet := List CodeRange

namespace CodeSet

/-- The set that a table lists. -/
def ofLines (lines : List String) : CodeSet := (tableEntries lines).map (CodeRange.ofText '-')

/-- **Whether a code is in a set.** -/
def contains (s : CodeSet) (n : Nat) : Bool := s.any fun r => r.contains n

end CodeSet

/-- What the codes of a range are replaced by. -/
structure Replacement where
  /-- The range. -/
  range : CodeRange
  /-- How far the codes of the range that are meant are apart. -/
  stride : Nat := 1
  /-- Whether what a code is replaced by is as far from the target as the code is from the first
  one. -/
  moves : Bool := false
  /-- What the first code is replaced by. -/
  target : List Nat
  deriving DecidableEq, Repr

namespace Replacement

/-- What a code is replaced by, if it is meant. -/
def get? (r : Replacement) (n : Nat) : Option (List Nat) :=
  if r.range.contains n ∧ (n - r.range.first) % r.stride = 0 then
    some (if r.moves then r.target.map (· + (n - r.range.first)) else r.target)
  else none

/-- The codes of a target. -/
def targetOfText (cs : List Char) : List Nat :=
  if cs.isEmpty then [] else (splitAt '.' cs).map hexCode

/-- The replacement that an entry tells. -/
def ofText (cs : List Char) : Replacement :=
  let (codes, target, moves) :=
    match cutAt '=' cs with
    | some (codes, target) => (codes, target, true)
    | none =>
      let (codes, target) := (cutAt ':' cs).getD (cs, [])
      (codes, target, false)
  let everySecond := codes.contains '/'
  { range := .ofText (if everySecond then '/' else '-') codes
    stride := if everySecond then 2 else 1
    moves
    target := targetOfText target }

end Replacement

/-- What codes are replaced by. -/
abbrev Replacements := List Replacement

namespace Replacements

/-- The replacements that a table tells. -/
def ofLines (lines : List String) : Replacements := (tableEntries lines).map Replacement.ofText

/-- **What a code is replaced by**, if it is. -/
def get? (rs : Replacements) (n : Nat) : Option (List Nat) := rs.findSome? fun r => r.get? n

/-- The code that is replaced by exactly these. -/
def source? (rs : Replacements) (target : List Nat) : Option Nat :=
  (rs.find? fun r => r.target == target).map fun r => r.range.first

end Replacements

end RegistryProxy.Text
