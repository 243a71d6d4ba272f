import RegistryProxy.Text.Percent

/-!
# Proofs/Text/Percent — what was escaped is read back

Escapes are read from left to right, and one that was written is read whole, whatever stands behind
it (`decode_escape`).  So a text is read back if the percent sign itself never stands for itself
(`decode_encode`).  `Escaped` says what such a text looks like, without a word on how it is made.
-/

namespace RegistryProxy.Percent

variable {keeps : UInt8 → Bool} {b : UInt8} {rest : Bytes} {cs ds : List Char}

/-! ## Reading back -/

theorem hexValue?_upperHex : ∀ n < 16, ∃ digit : Nat, digit < 128 ∧ upperHex n = Char.ofNat digit ∧
    hexValue? (UInt8.ofNat digit) = some n := by
  intro n hn
  refine ⟨if n < 10 then 0x30 + n else 0x41 + (n - 10), ?_, rfl, ?_⟩
  · split <;> omega
  · revert n
    decide

/-- A byte that is no percent sign stands for itself. -/
theorem decode_cons_of_ne (h : b ≠ 0x25) (rest : Bytes) :
    decode (b :: rest) = b :: decode rest := by
  match rest with
  | [] | [_] => rfl
  | c :: d :: rest =>
    rw [decode, beq_false_of_ne h]

/-- **An escape stands for its byte.** -/
theorem decode_escape (b : UInt8) (rest : Bytes) :
    decode ((escape b).flatMap String.utf8EncodeChar ++ rest) = b :: decode rest := by
  obtain ⟨high, hhigh, hchar, hvalue⟩ := hexValue?_upperHex (b.toNat / 16)
    (Nat.div_lt_of_lt_mul b.toNat_lt)
  obtain ⟨low, hlow, hchar', hvalue'⟩ := hexValue?_upperHex (b.toNat % 16)
    (Nat.mod_lt _ (by decide))
  have hbytes : (escape b).flatMap String.utf8EncodeChar =
      [0x25, UInt8.ofNat high, UInt8.ofNat low] := by
    have hpercent : String.utf8EncodeChar '%' = [0x25] := rfl
    simp only [escape, hchar, hchar', List.flatMap_cons, List.flatMap_nil, hpercent,
      Utf8.utf8EncodeChar_ofNat hhigh, Utf8.utf8EncodeChar_ofNat hlow, List.cons_append,
      List.nil_append]
  have hbyte : (b.toNat / 16 * 16 + b.toNat % 16).toUInt8 = b := by
    rw [Nat.div_add_mod']
    exact UInt8.ofNat_toNat
  rw [hbytes]
  change decode (0x25 :: UInt8.ofNat high :: UInt8.ofNat low :: rest) = _
  rw [decode, hvalue, hvalue']
  exact congrArg (· :: decode rest) hbyte

/-- **What was escaped is read back**, if only ASCII stands for itself, and the percent sign does
not. -/
theorem decode_encode (hascii : ∀ b, keeps b = true → b.toNat < 128) (hpercent : keeps 0x25 = false)
    (bytes : Bytes) :
    decode ((encode keeps bytes).flatMap String.utf8EncodeChar) = bytes := by
  induction bytes with
  | nil => rfl
  | cons b rest ih =>
    rw [encode, List.flatMap_cons, List.flatMap_append, ← encode, encodeByte]
    split
    next hkept =>
      have hb : b ≠ 0x25 := by
        rintro rfl
        exact Bool.false_ne_true (hpercent.symm.trans hkept)
      rw [List.flatMap_singleton, Utf8.utf8EncodeChar_ofNat (hascii b hkept), UInt8.ofNat_toNat,
        List.singleton_append, decode_cons_of_ne hb, ih]
    next => rw [decode_escape, ih]

/-! ## What is written -/

/-- A hexadecimal digit in upper case. -/
def UpperHex (c : Char) : Prop := c.isDigit = true ∨ ('A' ≤ c ∧ c ≤ 'F')

/-- **A text of plain characters and escapes.** -/
inductive Escaped (Plain : Char → Prop) : List Char → Prop
  | nil : Escaped Plain []
  | plain {c : Char} {cs : List Char} (plain : Plain c) (rest : Escaped Plain cs) :
    Escaped Plain (c :: cs)
  | escape {high low : Char} {cs : List Char} (high_hex : UpperHex high) (low_hex : UpperHex low)
    (rest : Escaped Plain cs) : Escaped Plain ('%' :: high :: low :: cs)

theorem upperHex_upperHex : ∀ n < 16, UpperHex (upperHex n) := by
  unfold UpperHex
  decide

/-- **What is written is plain or an escape.** -/
theorem escaped_encode {Plain : Char → Prop}
    (hplain : ∀ b, keeps b = true → Plain (Char.ofNat b.toNat)) (bytes : Bytes) :
    Escaped Plain (encode keeps bytes) := by
  induction bytes with
  | nil => exact .nil
  | cons b rest ih =>
    rw [encode, List.flatMap_cons, ← encode, encodeByte]
    split
    next hkept => exact .plain (hplain b hkept) ih
    next =>
      exact .escape (upperHex_upperHex _ (Nat.div_lt_of_lt_mul b.toNat_lt))
        (upperHex_upperHex _ (Nat.mod_lt _ (by decide))) ih

/-- A character of such a text is plain, a percent sign or a digit. -/
theorem Escaped.mem {Plain : Char → Prop} (h : Escaped Plain cs) {c : Char} (hc : c ∈ cs) :
    Plain c ∨ c = '%' ∨ UpperHex c := by
  induction h with
  | nil => cases hc
  | plain hplain _ ih =>
    rcases List.mem_cons.1 hc with rfl | hc
    · exact .inl hplain
    · exact ih hc
  | escape hhigh hlow _ ih =>
    simp only [List.mem_cons] at hc
    rcases hc with rfl | rfl | rfl | hc
    · exact .inr (.inl rfl)
    · exact .inr (.inr hhigh)
    · exact .inr (.inr hlow)
    · exact ih hc

end RegistryProxy.Percent
