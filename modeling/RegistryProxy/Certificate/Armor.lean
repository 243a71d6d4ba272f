import RegistryProxy.Text.Utf8

/-!
# Certificate/Armor — bytes between lines of dashes

A block opens with a line that tells its kind and closes with a line that tells it again.  Between
them stands what it holds, in base 64; an empty line in front of that sets a head apart.  What
stands outside of blocks does not count, and neither do blanks and other than ASCII characters at
the ends of lines.  `Armor.find?` looks for the first block of a kind: all blocks in front of it
have to be sound.
-/

namespace RegistryProxy.Armor

/-- What stands between an opening and a closing line. -/
structure Block where
  /-- The kind of the block. -/
  kind : Bytes
  /-- The lines set apart in front. -/
  head : Bytes
  /-- What it holds. -/
  bytes : Bytes
  deriving DecidableEq

/-! ## Base 64 -/

/-- The value of a digit in base 64. -/
def digit? (b : UInt8) : Option Nat :=
  if 0x41 ≤ b && b ≤ 0x5a then some (b.toNat - 0x41)
  else if 0x61 ≤ b && b ≤ 0x7a then some (b.toNat - 0x61 + 26)
  else if 0x30 ≤ b && b ≤ 0x39 then some (b.toNat - 0x30 + 52)
  else if b == 0x2b then some 62
  else if b == 0x2f then some 63
  else none

/-- The bytes of digits, three for four. -/
def pack : List Nat → Bytes
  | a :: b :: c :: d :: rest =>
    (a * 4 + b / 16).toUInt8 :: (b % 16 * 16 + c / 4).toUInt8 :: (c % 4 * 64 + d).toUInt8 ::
      pack rest
  | [a, b, c] => [(a * 4 + b / 16).toUInt8, (b % 16 * 16 + c / 4).toUInt8]
  | [a, b] => [(a * 4 + b / 16).toUInt8]
  | _ => []

/-- Whether a byte separates digits. -/
def isBlank (b : UInt8) : Bool := b == 0x20 || b == 0x09 || b == 0x0a || b == 0x0d

/-- **The bytes of a text in base 64**, up to a hyphen if there is one.  The last four digits may
end in one or two equals signs. -/
def unpack? (text : Bytes) : Option Bytes := do
  let digits := (text.takeWhile (· != 0x2d)).filter fun b => !isBlank b
  let values ← (digits.takeWhile (· != 0x3d)).mapM digit?
  let fill := digits.dropWhile (· != 0x3d)
  guard (fill.all (· == 0x3d) ∧ fill.length ≤ 2 ∧ digits.length % 4 = 0)
  return pack values

/-! ## Lines -/

/-- The longest line; a longer one counts as several. -/
def lineLimit : Nat := 254

/-- Takes a line with its end. -/
def takeLine : Nat → Bytes → Bytes × Bytes
  | 0, bs => ([], bs)
  | _, [] => ([], [])
  | room + 1, b :: bs =>
    if b = 0x0a then ([b], bs)
    else
      let (line, rest) := takeLine room bs
      (b :: line, rest)

/-- Cuts bytes into lines; `fuel` bounds their number. -/
def linesUpTo (fuel : Nat) (bs : Bytes) : List Bytes :=
  match fuel, bs with
  | 0, _ | _, [] => []
  | fuel + 1, bs =>
    let (line, rest) := takeLine lineLimit bs
    line :: linesUpTo fuel rest

/-- All lines. -/
def lines (bs : Bytes) : List Bytes := linesUpTo bs.length bs

/-- Whether a line goes on in the next one. -/
def isCut (line : Bytes) : Bool := line.length == lineLimit && line.getLast? != some 0x0a

/-- Whether a byte at the end of a line does not count. -/
def isFiller (b : UInt8) : Bool := b ≤ 0x20 || 0x80 ≤ b

/-- A line without what does not count at its end. -/
def trimEnd (line : Bytes) : Bytes := (line.reverse.dropWhile isFiller).reverse

/-- A line up to the first zero. -/
def upToZero (line : Bytes) : Bytes := line.takeWhile (· != 0)

/-- The start of an opening line. -/
def opening : Bytes := Utf8.encode "-----BEGIN "

/-- The start of a closing line. -/
def closing : Bytes := Utf8.encode "-----END "

/-- The end of both. -/
def dashes : Bytes := Utf8.encode "-----"

/-- A line without the mark that some texts start with. -/
def withoutMark : Bytes → Bytes
  | 0xef :: 0xbb :: 0xbf :: line => line
  | line => line

/-- The kind that an opening line tells. -/
def kind? (line : Bytes) : Option Bytes :=
  let line := trimEnd line
  if opening.isPrefixOf line ∧ dashes.isSuffixOf line then
    some (upToZero ((line.drop opening.length).take (line.length - opening.length - dashes.length)))
  else none

/-! ## Blocks -/

/-- Takes lines up to an opening one; `first` tells whether there may be a mark in front. -/
def takeOpening (first : Bool) : List Bytes → Option (Bytes × List Bytes)
  | [] => none
  | line :: rest =>
    match kind? (if first then withoutMark line else line) with
    | some kind => some (kind, rest)
    | none => takeOpening false rest

/-- Where the lines of a block are. -/
inductive Part where
  /-- Maybe in its head, maybe not. -/
  | unknown
  /-- In its head. -/
  | head
  /-- Behind its head. -/
  | body
  deriving DecidableEq

/-- What has been read of a block. -/
structure Draft where
  /-- Where the lines are. -/
  part : Part := .unknown
  /-- Whether a line behind the head was short, so that it is the last one. -/
  short : Bool := false
  /-- Whether the line before goes on. -/
  cut : Bool := false
  /-- The lines in front of an empty one. -/
  front : Bytes := []
  /-- The lines behind it. -/
  body : Bytes := []

/-- The head of a block, and the text of what it holds.  Without an empty line all belongs to that,
unless a colon tells of a head. -/
def Draft.split (d : Draft) : Bytes × Bytes :=
  if d.part = .unknown then ([], d.front) else (d.front, d.body)

/-- Takes lines up to the closing one.  Behind a head all lines but the last have 64 characters. -/
def takeLines (kind : Bytes) (d : Draft) : List Bytes → Option (Draft × List Bytes)
  | [] => none
  | line :: rest =>
    let part := if d.part = .unknown ∧ line.contains 0x3a then .head else d.part
    let text := trimEnd line
    let next := { d with part, cut := isCut line }
    if text.isEmpty then
      if d.cut then takeLines kind next rest
      else if part = .body then none
      else takeLines kind { next with part := .body } rest
    else if closing.isPrefixOf text then
      if text = closing ++ kind ++ dashes then some (next, rest) else none
    else if d.short then none
    else if part = .body then
      if 64 < text.length then none
      else
        let body := d.body ++ upToZero text
        takeLines kind { next with body, short := text.length < 64 } rest
    else takeLines kind { next with front := d.front ++ upToZero text } rest

/-- Takes a block; one that holds nothing is not sound. -/
def takeBlock (lines : List Bytes) : Option (Block × List Bytes) := do
  let (kind, rest) ← takeOpening true lines
  let (d, rest) ← takeLines kind {} rest
  let (head, text) := d.split
  let bytes ← unpack? text
  guard (bytes ≠ [])
  return ({ kind, head, bytes }, rest)

/-- Takes blocks up to the first of a kind; `fuel` bounds their number. -/
def takeUpTo (fuel : Nat) (wanted : Bytes → Bool) (lines : List Bytes) : Option Block :=
  match fuel with
  | 0 => none
  | fuel + 1 => do
    let (block, rest) ← takeBlock lines
    if wanted block.kind then some block else takeUpTo fuel wanted rest

/-- **The first block of a kind.** -/
def find? (wanted : Bytes → Bool) (bs : Bytes) : Option Block :=
  takeUpTo bs.length wanted (lines bs)

end RegistryProxy.Armor
