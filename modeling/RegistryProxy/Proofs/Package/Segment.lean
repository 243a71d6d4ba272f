import RegistryProxy.Package.Name
import RegistryProxy.Proofs.Text.Percent

/-!
# Proofs/Package/Segment — a name is one segment of a path

The bytes of a name are those that its segment stands for, so names that differ have segments that
differ (`encodeName_inj`).  All characters of a segment are unreserved or belong to an escape, but
for the `@` of a scope (`escaped_encodeName`); so no segment ends the path that it stands in
(`not_mem_encodeName`).
-/

namespace RegistryProxy.Package

variable {name other : String}

/-- **A character that a path takes as it is**, whatever it stands for elsewhere. -/
def Unreserved (c : Char) : Prop := c.isAlphanum = true ∨ c ∈ "-_.!~*'()".toList

/-! ## Unreserved bytes -/

theorem isUnreserved_iff : ∀ n < 256, isUnreserved (UInt8.ofNat n) = true →
    n < 128 ∧ Unreserved (Char.ofNat n) := by
  unfold Unreserved
  decide +kernel

theorem toNat_lt_of_isUnreserved {b : UInt8} (h : isUnreserved b = true) : b.toNat < 128 :=
  (isUnreserved_iff b.toNat b.toNat_lt (by rwa [UInt8.ofNat_toNat])).1

theorem unreserved_of_isUnreserved {b : UInt8} (h : isUnreserved b = true) :
    Unreserved (Char.ofNat b.toNat) :=
  (isUnreserved_iff b.toNat b.toNat_lt (by rwa [UInt8.ofNat_toNat])).2

/-! ## The sign of a scope -/

/-- No other character begins with the byte of the sign. -/
theorem head?_utf8EncodeChar (c : Char) :
    (String.utf8EncodeChar c).head? = some 0x40 ↔ c = '@' := by
  constructor
  · intro h
    rcases Utf8.mem_utf8EncodeChar (List.mem_of_head? h) with hbyte | hbyte
    · exact Char.toNat_inj.1 hbyte.symm
    · exact absurd hbyte (by decide)
  · rintro rfl
    rfl

theorem head?_encode (name : String) :
    (Utf8.encode name).head? = some 0x40 ↔ name.toList.head? = some '@' := by
  have hbytes := Utf8.encode_ofList name.toList
  rw [String.ofList_toList] at hbytes
  rw [hbytes]
  cases name.toList with
  | nil => simp
  | cons c cs =>
    obtain ⟨b, bs, hchar⟩ := List.exists_cons_of_ne_nil (String.utf8EncodeChar_ne_nil (c := c))
    have hhead := head?_utf8EncodeChar c
    rw [hchar] at hhead
    rw [List.flatMap_cons, hchar, List.head?_cons, Option.some.injEq]
    exact hhead

/-- **A segment is the escaped name**, but for the sign of a scope in front. -/
theorem encodeBytes_eq (bytes : Bytes) : encodeBytes bytes =
    if bytes.head? = some 0x40 then '@' :: Percent.encode isUnreserved bytes.tail
    else Percent.encode isUnreserved bytes := by
  rw [encodeBytes.eq_def]
  split
  next => rfl
  next hne =>
    rw [if_neg]
    intro hhead
    obtain ⟨rest, rfl⟩ := List.head?_eq_some_iff.1 hhead
    exact hne rest rfl

/-! ## Segments -/

/-- **The bytes of a name are what its segment stands for.** -/
theorem decode_encodeName (name : String) :
    Percent.decode (Utf8.encode (encodeName name)) = Utf8.encode name := by
  have hread := Percent.decode_encode (fun _ => toNat_lt_of_isUnreserved)
    (show isUnreserved 0x25 = false from rfl)
  rw [encodeName, Utf8.encode_ofList, encodeBytes_eq]
  split
  next hhead =>
    obtain ⟨rest, hrest⟩ := List.head?_eq_some_iff.1 hhead
    have hsign : String.utf8EncodeChar '@' = [0x40] := rfl
    rw [List.flatMap_cons, hsign, hrest, List.tail_cons, List.singleton_append,
      Percent.decode_cons_of_ne (by decide), hread]
  next => exact hread _

/-- **Names that differ have segments that differ.** -/
theorem encodeName_inj : encodeName other = encodeName name ↔ other = name := by
  refine ⟨fun h => ?_, congrArg encodeName⟩
  rw [← Utf8.encode_inj, ← decode_encodeName other, h, decode_encodeName]

/-- What would end a segment or a path, and the sign of a scope, are neither unreserved nor in an
escape. -/
theorem not_mem_of_escaped {cs : List Char} (h : Percent.Escaped Unreserved cs) :
    ∀ c ∈ ['@', '/', '?', '#', '\\'], c ∉ cs := by
  intro c hc hmem
  obtain ⟨hplain, hpercent, hhex⟩ : ¬ Unreserved c ∧ c ≠ '%' ∧ ¬ Percent.UpperHex c := by
    simp only [List.mem_cons, List.not_mem_nil, or_false] at hc
    unfold Unreserved Percent.UpperHex
    rcases hc with rfl | rfl | rfl | rfl | rfl <;> decide
  rcases h.mem hmem with h | h | h
  · exact hplain h
  · exact hpercent h
  · exact hhex h

/-- **The characters of a segment** are unreserved or belong to escapes, with a sign in front if and
only if the name begins with one. -/
theorem escaped_encodeName (name : String) :
    ∃ rest, Percent.Escaped Unreserved rest ∧ '@' ∉ rest ∧
      (encodeName name).toList = if name.toList.head? = some '@' then '@' :: rest else rest := by
  have hescaped (bytes : Bytes) :=
    Percent.escaped_encode (fun _ => unreserved_of_isUnreserved) bytes
  have hsign (bytes : Bytes) := not_mem_of_escaped (hescaped bytes) '@' List.mem_cons_self
  rw [encodeName, String.toList_ofList, encodeBytes_eq]
  simp only [head?_encode]
  split
  · exact ⟨_, hescaped _, hsign _, rfl⟩
  · exact ⟨_, hescaped _, hsign _, rfl⟩

/-- **Nothing in a segment ends it, or the path that it stands in.** -/
theorem not_mem_encodeName (name : String) :
    ∀ c ∈ ['/', '?', '#', '\\'], c ∉ (encodeName name).toList := by
  intro c hc
  obtain ⟨rest, hescaped, -, hrest⟩ := escaped_encodeName name
  have hmem : c ∉ rest := not_mem_of_escaped hescaped c (List.mem_cons_of_mem _ hc)
  have hsign : c ≠ '@' := by
    rintro rfl
    revert hc
    decide
  rw [hrest]
  split
  · exact List.not_mem_cons_of_ne_of_not_mem hsign hmem
  · exact hmem

end RegistryProxy.Package
