import RegistryProxy.Text.Utf8

/-!
# Text/Percent — bytes written as a percent sign and two digits

`Percent.encode` writes every byte that may not stand for itself as a percent sign and two
hexadecimal digits; `Percent.decode` reads such escapes back and leaves a percent sign without two
digits alone.
-/

namespace RegistryProxy.Percent

/-- The upper-case hexadecimal digit of a number below sixteen. -/
def upperHex (n : Nat) : Char := Char.ofNat (if n < 10 then 0x30 + n else 0x41 + (n - 10))

/-- A byte as a percent sign and two digits. -/
def escape (b : UInt8) : List Char := ['%', upperHex (b.toNat / 16), upperHex (b.toNat % 16)]

/-- A byte, escaped unless `keeps` lets it stand. -/
def encodeByte (keeps : UInt8 → Bool) (b : UInt8) : List Char :=
  if keeps b then [Char.ofNat b.toNat] else escape b

/-- **Bytes with all but those that `keeps` lets stand escaped.** -/
def encode (keeps : UInt8 → Bool) (bytes : Bytes) : List Char := bytes.flatMap (encodeByte keeps)

/-- The value of a hexadecimal digit. -/
def hexValue? (b : UInt8) : Option Nat :=
  if 0x30 ≤ b && b ≤ 0x39 then some (b.toNat - 0x30)
  else if 0x41 ≤ b && b ≤ 0x46 then some (b.toNat - 0x41 + 10)
  else if 0x61 ≤ b && b ≤ 0x66 then some (b.toNat - 0x61 + 10)
  else none

/-- **Bytes with every escape replaced by what it stands for.** -/
def decode : Bytes → Bytes
  | [] => []
  | [a] => [a]
  | [a, b] => [a, b]
  | a :: b :: c :: rest =>
    match a == 0x25, hexValue? b, hexValue? c with
    | true, some high, some low => (high * 16 + low).toUInt8 :: decode rest
    | _, _, _ => a :: decode (b :: c :: rest)

end RegistryProxy.Percent
