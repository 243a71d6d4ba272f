import RegistryProxy.Binary64.Decimal
import RegistryProxy.Json.Basic

/-!
# Json/Parser — reading a document

`Json.Tree.read` reads one document and nothing after it.  Containers nested deeper than the given
depth are read but have no value.  Numbers are read the way fast readers do it: the leading digits
that fit into 64 bits, scaled by powers of ten, so that long fractions may miss the nearest double.
-/

namespace RegistryProxy.Json

/-- The deepest nesting of a document text that has a value. -/
def maxDepth : Nat := 127

/-- Whether a byte may stand between tokens. -/
def isSpace (b : UInt8) : Bool := b == 0x20 || b == 0x0a || b == 0x0d || b == 0x09

/-- Drops the spaces in front. -/
def skipSpace (bytes : Bytes) : Bytes := bytes.dropWhile isSpace

/-- Whether a byte is a decimal digit. -/
def isDigit (b : UInt8) : Bool := 0x30 ≤ b && b ≤ 0x39

/-- The value of a digit. -/
def digitValue (b : UInt8) : Nat := b.toNat - 0x30

/-! ## Numbers -/

/-- A number as written. -/
structure Numeral where
  /-- Whether a minus sign stands in front. -/
  negative : Bool
  /-- The digits before the point. -/
  whole : List Nat
  /-- The digits after the point. -/
  fraction : Option (List Nat)
  /-- The sign (true for minus) and digits of the exponent. -/
  exponent : Option (Bool × List Nat)

namespace Numeral

/-- Takes digits into `sum` as long as it stays within 64 bits; the rest is handed back. -/
def gather (sum : Nat) : List Nat → Nat × List Nat
  | [] => (sum, [])
  | d :: ds =>
    if sum * 10 + d < 0x10000000000000000 then gather (sum * 10 + d) ds else (sum, d :: ds)

/-- Divides by ten `places` times, at most 308 places at once. -/
def scaleDown (m : Magnitude) (places : Nat) : Magnitude :=
  if places ≤ 308 then m / .ofDecimal 1 places
  else if m.isZero then m
  else scaleDown (m / .ofDecimal 1 308) (places - 308)
termination_by places

/-- `significand · 10 ^ power` with one rounding for the significand and one for each scaling. -/
def scale (significand : Nat) (power : Int) : Option Magnitude :=
  if 0 ≤ power then
    if power ≤ 308 then
      match Magnitude.ofNat significand * .ofDecimal 1 power with
      | .infinite => none
      | m => some m
    else if significand = 0 then some .zero else none
  else some (scaleDown (.ofNat significand) (-power).toNat)

/-- The value of a number as written; none beyond every double. -/
def value? (n : Numeral) : Option Number :=
  let (sum, dropped) := gather 0 n.whole
  if n.fraction.isNone && n.exponent.isNone && dropped.isEmpty then
    if !n.negative then some (.int sum)
    else if 0 < sum ∧ sum ≤ 0x8000000000000000 then some (.int (-sum))
    else some (.real (.signed true (.ofNat sum)))
  else
    let places := n.fraction.getD []
    let (sum, unused) := gather sum places
    let start : Int := (dropped.length : Int) - ((places.length - unused.length : Nat) : Int)
    let magnitude? :=
      match n.exponent with
      | none => scale sum start
      | some (minus, digits) =>
        let size : Nat := digits.foldl (fun e d => e * 10 + d) 0
        if 0x80000000 ≤ size then if sum = 0 ∨ minus then some .zero else none
        else scale sum (if minus then start - (size : Int) else start + (size : Int))
    magnitude?.map fun m => .real (.signed n.negative m)

end Numeral

/-- The digits in front, and what follows them. -/
def takeDigits (bytes : Bytes) : List Nat × Bytes :=
  ((bytes.takeWhile isDigit).map digitValue, bytes.dropWhile isDigit)

/-- The fraction of a number, if a point stands here. -/
def readFraction : Bytes → Option (Option (List Nat) × Bytes)
  | 0x2e :: rest =>
    let (digits, rest) := takeDigits rest
    if digits.isEmpty then none else some (some digits, rest)
  | bytes => some (none, bytes)

/-- The sign and digits of an exponent. -/
def readPower (bytes : Bytes) : Option (Option (Bool × List Nat) × Bytes) :=
  let (minus, rest) :=
    match bytes with
    | 0x2b :: rest => (false, rest)
    | 0x2d :: rest => (true, rest)
    | _ => (false, bytes)
  let (digits, rest) := takeDigits rest
  if digits.isEmpty then none else some (some (minus, digits), rest)

/-- The exponent of a number, if the letter for it stands here. -/
def readExponent : Bytes → Option (Option (Bool × List Nat) × Bytes)
  | 0x65 :: rest | 0x45 :: rest => readPower rest
  | bytes => some (none, bytes)

/-- A number without its sign; a zero in front stands alone. -/
def readNumeral (negative : Bool) (bytes : Bytes) : Option (Numeral × Bytes) := do
  let (whole, rest) := takeDigits bytes
  guard (!whole.isEmpty && (whole.head? != some 0 || whole.length == 1))
  let (fraction, rest) ← readFraction rest
  let (exponent, rest) ← readExponent rest
  return ({ negative, whole, fraction, exponent }, rest)

/-! ## Texts -/

/-- One piece of a text as written. -/
inductive Piece where
  /-- A byte that stands for itself. -/
  | byte (value : UInt8)
  /-- A character given by a code of sixteen bits. -/
  | unit (value : Nat)

/-- The value of a hexadecimal digit. -/
def hexValue (b : UInt8) : Option Nat :=
  if isDigit b then some (digitValue b)
  else if 0x61 ≤ b && b ≤ 0x66 then some (b.toNat - 0x61 + 10)
  else if 0x41 ≤ b && b ≤ 0x46 then some (b.toNat - 0x41 + 10)
  else none

/-- The code in four hexadecimal digits. -/
def hexCode (a b c d : UInt8) : Option Nat := do
  let a ← hexValue a
  let b ← hexValue b
  let c ← hexValue c
  let d ← hexValue d
  return ((a * 16 + b) * 16 + c) * 16 + d

/-- The byte that a letter after a backslash stands for. -/
def shortEscape (b : UInt8) : Option UInt8 :=
  if b == 0x22 || b == 0x5c || b == 0x2f then some b
  else if b == 0x62 then some 0x08
  else if b == 0x66 then some 0x0c
  else if b == 0x6e then some 0x0a
  else if b == 0x72 then some 0x0d
  else if b == 0x74 then some 0x09
  else none

/-- The pieces of a text up to its closing quote, and what follows. -/
def readPieces : Bytes → Option (List Piece × Bytes)
  | [] => none
  | 0x22 :: rest => some ([], rest)
  | 0x5c :: 0x75 :: a :: b :: c :: d :: rest => do
    let code ← hexCode a b c d
    let (pieces, rest) ← readPieces rest
    return (.unit code :: pieces, rest)
  | 0x5c :: b :: rest => do
    let b ← shortEscape b
    let (pieces, rest) ← readPieces rest
    return (.byte b :: pieces, rest)
  | b :: rest => do
    guard (0x20 ≤ b && b != 0x5c)
    let (pieces, rest) ← readPieces rest
    return (.byte b :: pieces, rest)

/-- Whether a code is the first half of a pair. -/
def isHighHalf (code : Nat) : Bool := 0xd800 ≤ code && code < 0xdc00

/-- Whether a code is the second half of a pair. -/
def isLowHalf (code : Nat) : Bool := 0xdc00 ≤ code && code < 0xe000

/-- The bytes of a text; none when half a pair stands alone. -/
def pieceBytes : List Piece → Option Bytes
  | [] => some []
  | .byte b :: rest => (pieceBytes rest).map (b :: ·)
  | .unit code :: rest =>
    if isHighHalf code then
      match rest with
      | .unit low :: rest =>
        if isLowHalf low then
          let full := 0x10000 + (code - 0xd800) * 0x400 + (low - 0xdc00)
          (pieceBytes rest).map (String.utf8EncodeChar (Char.ofNat full) ++ ·)
        else none
      | _ => none
    else if isLowHalf code then none
    else (pieceBytes rest).map (String.utf8EncodeChar (Char.ofNat code) ++ ·)

/-- The text that pieces stand for. -/
def pieceText (pieces : List Piece) : Option String := pieceBytes pieces >>= Utf8.decode

/-! ## Documents -/

namespace Tree

/-- A container at nesting `depth` below the limit, or one without a value. -/
def within (depth : Nat) (t : Tree) : Tree := if depth = 0 then .meaningless else t

/-- Reads a word and gives `t` for it. -/
def readWord (word : Bytes) (t : Tree) (bytes : Bytes) : Option (Tree × Bytes) :=
  if word.isPrefixOf bytes then some (t, bytes.drop word.length) else none

/-- Reads a number that starts with a digit. -/
def readNumber (negative : Bool) (bytes : Bytes) : Option (Tree × Bytes) := do
  let (n, rest) ← readNumeral negative bytes
  return ((n.value?.map Tree.number).getD .meaningless, rest)

/-- Takes the comma in front of every entry but the first. -/
def afterComma (first : Bool) (bytes : Bytes) : Option Bytes :=
  if first then some bytes
  else
    match bytes with
    | 0x2c :: rest => some rest
    | _ => none

/-- Reads the name of a member and its colon. -/
def readName (bytes : Bytes) : Option (Option String × Bytes) :=
  match skipSpace bytes with
  | 0x22 :: rest => do
    let (pieces, rest) ← readPieces rest
    match skipSpace rest with
    | 0x3a :: rest => some (pieceText pieces, rest)
    | _ => none
  | _ => none

mutual

/-- Reads one value, spaces in front allowed.  `fuel` bounds the number of tokens. -/
def readValue (fuel depth : Nat) (bytes : Bytes) : Option (Tree × Bytes) :=
  match fuel with
  | 0 => none
  | fuel + 1 =>
    match skipSpace bytes with
    | [] => none
    | 0x22 :: rest => do
      let (pieces, rest) ← readPieces rest
      return (((pieceText pieces).map Tree.string).getD .meaningless, rest)
    | 0x5b :: rest => do
      let (items, rest) ← readItems fuel (depth - 1) true rest
      return (within depth (.array items), rest)
    | 0x7b :: rest => do
      let (members, rest) ← readMembers fuel (depth - 1) true rest
      return (within depth (.object members), rest)
    | 0x2d :: rest => readNumber true rest
    | 0x6e :: rest => readWord [0x75, 0x6c, 0x6c] .null rest
    | 0x74 :: rest => readWord [0x72, 0x75, 0x65] (.bool true) rest
    | 0x66 :: rest => readWord [0x61, 0x6c, 0x73, 0x65] (.bool false) rest
    | rest => readNumber false rest

/-- Reads items up to the closing bracket; `first` tells that none has been read yet. -/
def readItems (fuel depth : Nat) (first : Bool) (bytes : Bytes) : Option (List Tree × Bytes) :=
  match fuel with
  | 0 => none
  | fuel + 1 =>
    match skipSpace bytes with
    | 0x5d :: rest => some ([], rest)
    | rest => do
      let rest ← afterComma first rest
      let (t, rest) ← readValue fuel depth rest
      let (items, rest) ← readItems fuel depth false rest
      return (t :: items, rest)

/-- Reads members up to the closing brace; `first` tells that none has been read yet. -/
def readMembers (fuel depth : Nat) (first : Bool) (bytes : Bytes) :
    Option (List (Option String × Tree) × Bytes) :=
  match fuel with
  | 0 => none
  | fuel + 1 =>
    match skipSpace bytes with
    | 0x7d :: rest => some ([], rest)
    | rest => do
      let rest ← afterComma first rest
      let (name, rest) ← readName rest
      let (t, rest) ← readValue fuel depth rest
      let (members, rest) ← readMembers fuel depth false rest
      return ((name, t) :: members, rest)

end

/-- **Reads a document** with nothing but spaces around it; containers nested deeper than `depth`
have no value. -/
def read (depth : Nat) (bytes : Bytes) : Option Tree := do
  let (t, rest) ← readValue (2 * bytes.length + 2) depth bytes
  guard (skipSpace rest).isEmpty
  return t

end Tree

/-- The value of a document text. -/
def parse (bytes : Bytes) : Option Json := Tree.read maxDepth bytes >>= Tree.value?

end RegistryProxy.Json
