import RegistryProxy.Binary64.Decimal
import RegistryProxy.Json.Basic

/-!
# Json/Printer — writing a document

`Json.write` writes a value without spaces.  In a text only the quote, the backslash and the control
characters are escaped; a number that is not finite is written as `null`.
-/

namespace RegistryProxy.Json

/-- The bytes of ASCII characters. -/
def ascii (cs : List Char) : Bytes := cs.map fun c => c.val.toUInt8

/-- The lower-case hexadecimal digit of a number below sixteen. -/
def hexDigit (n : Nat) : UInt8 := (if n < 10 then 0x30 + n else 0x61 + (n - 10)).toUInt8

/-- The bytes of a character inside a text. -/
def writeChar (c : Char) : Bytes :=
  if c = '"' then [0x5c, 0x22]
  else if c = '\\' then [0x5c, 0x5c]
  else if c.toNat = 0x08 then [0x5c, 0x62]
  else if c.toNat = 0x0c then [0x5c, 0x66]
  else if c = '\n' then [0x5c, 0x6e]
  else if c = '\r' then [0x5c, 0x72]
  else if c = '\t' then [0x5c, 0x74]
  else if c.toNat < 0x20 then
    [0x5c, 0x75, 0x30, 0x30, hexDigit (c.toNat / 16), hexDigit (c.toNat % 16)]
  else String.utf8EncodeChar c

/-- The bytes of a text with its quotes. -/
def writeText (s : String) : Bytes := 0x22 :: s.toList.flatMap writeChar ++ [0x22]

/-- The bytes of a number. -/
def writeNumber : Number → Bytes
  | .int n =>
    (if n < 0 then [0x2d] else []) ++ ascii (Decimal.digitsText n.natAbs)
  | .real x => ascii (x.documentText.getD ['n', 'u', 'l', 'l'])

mutual

/-- **Writes a value.** -/
def write : Json → Bytes
  | .null => [0x6e, 0x75, 0x6c, 0x6c]
  | .bool true => [0x74, 0x72, 0x75, 0x65]
  | .bool false => [0x66, 0x61, 0x6c, 0x73, 0x65]
  | .number n => writeNumber n
  | .string s => writeText s
  | .array items => 0x5b :: writeItems items
  | .object members => 0x7b :: writeMembers members

/-- Writes items and the closing bracket. -/
def writeItems : List Json → Bytes
  | [] => [0x5d]
  | [a] => write a ++ [0x5d]
  | a :: as => write a ++ 0x2c :: writeItems as

/-- Writes members and the closing brace. -/
def writeMembers : List (String × Json) → Bytes
  | [] => [0x7d]
  | [(k, a)] => writeText k ++ 0x3a :: write a ++ [0x7d]
  | (k, a) :: as => writeText k ++ 0x3a :: write a ++ 0x2c :: writeMembers as

end

end RegistryProxy.Json
