/-!
# Text/Utf8 — text as bytes and back

`Bytes` is what travels and is stored.  `decode` reads a well-formed byte string and refuses every
other one; `decodeLossy` puts a replacement character for each maximal malformed part instead.
-/

namespace RegistryProxy

/-- A string of bytes. -/
abbrev Bytes := List UInt8

namespace Utf8

/-- The bytes of a text. -/
def encode (s : String) : Bytes := s.toByteArray.data.toList

/-- The text that has these bytes, when they are well formed. -/
def decode (bytes : Bytes) : Option String := String.fromUTF8? ⟨bytes.toArray⟩

/-- **Reading takes back what writing gave.** -/
@[simp] theorem decode_encode (s : String) : decode (encode s) = some s := by
  simp only [decode, encode, Array.toArray_toList]
  rw [String.fromUTF8?, dif_pos s.isValidUTF8]
  rfl

theorem encode_inj {s t : String} : encode s = encode t ↔ s = t := by
  refine ⟨fun h => ?_, congrArg encode⟩
  have hread := congrArg decode h
  rwa [decode_encode, decode_encode, Option.some.injEq] at hread

theorem encode_append (s t : String) : encode (s ++ t) = encode s ++ encode t := by
  simp [encode]

theorem encode_ofList (cs : List Char) :
    encode (String.ofList cs) = cs.flatMap String.utf8EncodeChar := by
  simp [encode, List.utf8Encode]

/-- A character of ASCII is one byte. -/
theorem utf8EncodeChar_ofNat {n : Nat} (h : n < 128) :
    String.utf8EncodeChar (Char.ofNat n) = [UInt8.ofNat n] := by
  have hvalid : n.isValidChar := .inl (by omega)
  have hval : (Char.ofNat n).val.toNat = n := by
    rw [Char.ofNat, dif_pos hvalid]
    rfl
  rw [String.utf8EncodeChar]
  simp only [hval]
  rw [if_pos (by omega)]

/-- **A byte of ASCII stands for its own character only.** -/
theorem mem_utf8EncodeChar {b : UInt8} {c : Char} (h : b ∈ String.utf8EncodeChar c) :
    b.toNat = c.toNat ∨ 128 ≤ b.toNat := by
  change b.toNat = c.val.toNat ∨ _
  rw [String.utf8EncodeChar] at h
  generalize c.val.toNat = v at h ⊢
  split at h
  · simp only [List.mem_singleton] at h
    subst h
    simp
    omega
  split at h
  · simp at h
    rcases h with rfl | rfl <;> simp <;> omega
  split at h
  · simp at h
    rcases h with rfl | rfl | rfl <;> simp <;> omega
  · simp at h
    rcases h with rfl | rfl | rfl | rfl <;> simp <;> omega

/-- How many continuation bytes a leading byte asks for, with the bounds on the first of them. -/
def leadBounds (b : UInt8) : Option (Nat × UInt8 × UInt8) :=
  if 0xc2 ≤ b && b ≤ 0xdf then some (1, 0x80, 0xbf)
  else if b == 0xe0 then some (2, 0xa0, 0xbf)
  else if b == 0xed then some (2, 0x80, 0x9f)
  else if 0xe1 ≤ b && b ≤ 0xef then some (2, 0x80, 0xbf)
  else if b == 0xf0 then some (3, 0x90, 0xbf)
  else if 0xf1 ≤ b && b ≤ 0xf3 then some (3, 0x80, 0xbf)
  else if b == 0xf4 then some (3, 0x80, 0x8f)
  else none

/-- The length of the longest start of `rest` that continues a character with `need` more bytes. -/
def continuation (need : Nat) (low high : UInt8) : Bytes → Nat
  | [] => 0
  | b :: rest =>
    match need with
    | 0 => 0
    | need + 1 => if low ≤ b && b ≤ high then 1 + continuation need 0x80 0xbf rest else 0

/-- The first character of a byte string, and the number of bytes it takes; a malformed part gives
the replacement character. -/
def decodeFirst (b : UInt8) (rest : Bytes) : Char × Nat :=
  if b < 0x80 then (Char.ofNat b.toNat, 1)
  else
    match leadBounds b with
    | none => ('\ufffd', 1)
    | some (need, low, high) =>
      let got := continuation need low high rest
      if got = need then
        let lead := b.toNat % Nat.pow 2 (6 - need)
        let code := (rest.take need).foldl (fun code c => code * 64 + c.toNat % 64) lead
        (Char.ofNat code, 1 + need)
      else ('\ufffd', 1 + got)

/-- The characters of a byte string, each maximal malformed part as one replacement character.
`fuel` bounds the number of characters. -/
def lossyChars (fuel : Nat) (bytes : Bytes) : List Char :=
  match fuel, bytes with
  | 0, _ => []
  | _, [] => []
  | fuel + 1, b :: rest =>
    let (c, n) := decodeFirst b rest
    c :: lossyChars fuel (rest.drop (n - 1))

/-- The text of a byte string, each maximal malformed part as one replacement character. -/
def decodeLossy (bytes : Bytes) : String := String.ofList (lossyChars bytes.length bytes)

end Utf8

end RegistryProxy
