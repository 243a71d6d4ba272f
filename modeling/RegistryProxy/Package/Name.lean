import RegistryProxy.Text.Percent

/-!
# Package/Name — package names as path segments

A name becomes one segment of a path: every byte but the unreserved ones is written as a percent
sign and two digits.  Only the `@` that opens a scoped name stays as it is.
-/

namespace RegistryProxy.Package

/-- Whether a byte stands for itself in a path segment. -/
def isUnreserved (b : UInt8) : Bool :=
  (0x41 ≤ b && b ≤ 0x5a) || (0x61 ≤ b && b ≤ 0x7a) || (0x30 ≤ b && b ≤ 0x39) ||
    [0x2d, 0x5f, 0x2e, 0x21, 0x7e, 0x2a, 0x27, 0x28, 0x29].contains b

/-- The characters of a name as a path segment. -/
def encodeBytes (bytes : Bytes) : List Char :=
  match bytes with
  | 0x40 :: rest => '@' :: Percent.encode isUnreserved rest
  | _ => Percent.encode isUnreserved bytes

/-- **A name as a path segment.** -/
def encodeName (name : String) : String := String.ofList (encodeBytes (Utf8.encode name))

end RegistryProxy.Package
