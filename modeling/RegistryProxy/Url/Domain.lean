import RegistryProxy.Text.Composition
import RegistryProxy.Text.Direction
import RegistryProxy.Text.Joining
import RegistryProxy.Text.Percent
import RegistryProxy.Url.Domain.Mapping
import RegistryProxy.Url.Punycode

/-!
# Url/Domain — domain names in ASCII

A domain name is compared without regard to case and to how characters are composed, so all
characters are replaced by those that they are compared as.  A label with other than ASCII
characters is written in Punycode behind the mark `xn--`.  Refused are characters that would end a
host, labels that start with a mark, joiners that join nothing, and labels that mix characters of
both directions.
-/

namespace RegistryProxy.Domain

open RegistryProxy.Text

/-! ## Characters -/

/-- Whether an ASCII character may not stand in a domain name. -/
def isForbidden (c : Char) : Bool :=
  c.toNat ≤ 0x20 || c.toNat == 0x7f || "%#/:<>?@[\\]^|".toList.contains c

/-- Whether a character may stand in a domain name once it has been replaced. -/
def isAllowed (c : Char) : Bool := !(Punycode.isBasic c && isForbidden c)

/-- What a character is compared as, if it may stand in a domain name. -/
def fold? (c : Char) : Option (List Char) :=
  if Punycode.isBasic c then some [c.toLower]
  else
    match replacements.get? c.toNat with
    | some codes => some (codes.map Char.ofNat)
    | none => if refused.contains c.toNat then none else some [c]

/-- Whether a character of a label is what it is compared as. -/
def isFolded (c : Char) : Bool := c != '.' && isAllowed c && fold? c == some [c]

/-! ## Joiners -/

/-- Keeps letters apart that would be joined. -/
def nonJoiner : Char := '\u200c'

/-- Joins letters that would be apart. -/
def joiner : Char := '\u200d'

/-- Whether the nearest of these characters that counts is joined to the side where we are. -/
def joins (side : Joining) (cs : List Char) : Bool :=
  match (cs.map joiningOf).dropWhile (· == .transparent) with
  | j :: _ => j == side || j == .both
  | [] => false

/-- Whether each joiner has something to join; `before` has been read, the last character first.
Both may stand behind a mark that silences a vowel, and a `nonJoiner` between two letters that would
be joined. -/
def joinersFit (before : List Char) : List Char → Bool
  | [] => true
  | c :: rest =>
    let silenced := before.head?.any fun b => combiningClass b.toNat == silencing
    let parts := c == nonJoiner && joins .left before && joins .right rest
    ((c != nonJoiner && c != joiner) || silenced || parts) && joinersFit (c :: before) rest

/-! ## Directions -/

/-- Whether a character belongs to a text from right to left. -/
def isRightward (c : Char) : Bool := directionOf c == .right || directionOf c == .rightDigit

/-- Whether a label has one direction only, where another one of its name goes from right to
left. -/
def directionsFit (label : List Char) : Bool :=
  match label.map directionOf with
  | [] => true
  | first :: rest =>
    let all := first :: (rest.reverse.dropWhile (· == .mark)).reverse
    let last := all.getLast?.getD first
    match first with
    | .left =>
      all.all (fun d => d != .right && d != .rightDigit) && (last == .left || last == .digit)
    | .right =>
      all.all (· != .left) && (last == .right || last == .digit || last == .rightDigit) &&
        !(all.contains .digit && all.contains .rightDigit)
    | _ => false

/-! ## Labels -/

/-- A label. -/
structure Label where
  /-- How it is written in ASCII. -/
  ascii : List Char
  /-- The characters it stands for. -/
  chars : List Char

/-- The mark of a label in Punycode. -/
def mark : List Char := ['x', 'n', '-', '-']

/-- The most characters that are written in Punycode. -/
def maxChars : Nat := 1000

/-- The most digits of Punycode that are read. -/
def maxDigits : Nat := 2000

/-- Whether characters other than ASCII may stand together in a label. -/
def isWellFormed (cs : List Char) : Bool :=
  !cs.head?.any isMark && joinersFit [] cs && cs.length ≤ maxChars

/-- The label with these characters, which have been folded. -/
def label? (cs : List Char) : Option Label :=
  if mark.isPrefixOf cs then do
    guard (cs.length ≤ mark.length + maxDigits)
    let chars ← Punycode.decode (cs.drop mark.length)
    guard (chars.all isFolded ∧ composed chars = chars)
    guard (¬ chars.all Punycode.isBasic ∧ isWellFormed chars)
    guard (mark ++ Punycode.encode chars = cs)
    return { ascii := cs, chars }
  else if cs.all Punycode.isBasic then some { ascii := cs, chars := cs }
  else if isWellFormed cs then some { ascii := mark ++ Punycode.encode cs, chars := cs }
  else none

/-- **A domain name in ASCII**, if there is one. -/
def toAscii? (name : List Char) : Option (List Char) := do
  let folded := composed (← name.mapM fold?).flatten
  guard (folded.all isAllowed)
  let labels ← (splitAt '.' folded).mapM label?
  let turns := labels.any fun l => l.chars.any isRightward
  guard (!turns || labels.all fun l => directionsFit l.chars)
  return ['.'].intercalate (labels.map Label.ascii)

end RegistryProxy.Domain
