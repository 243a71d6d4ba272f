import Mathlib.Data.List.DropRight
import RegistryProxy.Text.Blank

/-!
# Proofs/Text/Case — letters in lower case

Writing a text in lower case moves the letters of ASCII and nothing else (`of_toLower`), so blanks
and separators stay where they are: a text can be trimmed and cut into pieces before that or behind
it (`trimmed_lower`, `splitAt_map_toLower`).
-/

namespace RegistryProxy.Text

variable {c d sep : Char} {cs : List Char}

/-! ## Letters -/

/-- A character stays in lower case, or is a capital letter, 32 below its small one. -/
theorem of_toLower (h : c.toLower = d) :
    c = d ∨ (65 ≤ c.toNat ∧ c.toNat ≤ 90) ∧ c.toNat + 32 = d.toNat := by
  delta Char.toLower at h
  split at h
  next hupper =>
    subst h
    have hlow : 65 ≤ c.val.toNat := UInt32.le_iff_toNat_le.1 hupper.1
    have hhigh : c.val.toNat ≤ 90 := UInt32.le_iff_toNat_le.1 hupper.2
    refine .inr ⟨⟨hlow, hhigh⟩, ?_⟩
    change c.val.toNat + 32 = (c.val + 32).toNat
    rw [UInt32.toNat_add]
    exact (Nat.mod_eq_of_lt (Nat.lt_of_le_of_lt (Nat.add_le_add_right hhigh 32) (by decide))).symm
  next => exact .inl h

/-- What is no letter is not written in another case. -/
theorem eq_of_toLower (hd : d.toNat < 97) (h : c.toLower = d) : c = d :=
  (of_toLower h).resolve_right fun hupper => by omega

theorem toLower_eq_iff (hd : d.toNat < 65) : c.toLower = d ↔ c = d := by
  refine ⟨eq_of_toLower (by omega), ?_⟩
  rintro rfl
  exact ((of_toLower rfl).resolve_right fun hupper => by omega).symm

/-- A letter in lower case is no upper case letter. -/
theorem toLower_toLower (c : Char) : c.toLower.toLower = c.toLower := by
  rcases of_toLower (rfl : c.toLower = c.toLower) with hsame | hmoved
  · rw [← hsame, ← hsame]
  · exact ((of_toLower (c := c.toLower) rfl).resolve_right fun hupper => by omega).symm

/-- No letter is blank. -/
theorem isBlank_toLower (c : Char) : isBlank c.toLower = isBlank c := by
  rcases of_toLower (rfl : c.toLower = c.toLower) with hsame | ⟨hupper, hmoved⟩
  · rw [← hsame]
  have hletter {n : Nat} (d : Char) (hd : d.toNat = n) (hlow : 65 ≤ n) (hhigh : n ≤ 122) :
      isBlank d = false := by
    simp only [isBlank, Bool.or_eq_false_iff, Bool.and_eq_false_imp, decide_eq_true_eq,
      decide_eq_false_iff_not, not_le, beq_eq_false_iff_ne]
    omega
  rw [hletter c rfl (by omega) (by omega), hletter _ hmoved.symm (by omega) (by omega)]

/-- What is in lower case stays as it is. -/
theorem lower_lower (s : String) : lower (lower s) = lower s := by
  rw [lower, lower, String.toList_ofList, List.map_map]
  exact congrArg String.ofList (List.map_congr_left fun c _ => toLower_toLower c)

/-! ## Trimming -/

/-- **What was trimmed has no blanks left to trim.** -/
theorem trim_trim (cs : List Char) : trim (trim cs) = trim cs := by
  have hend : trimEnd (trim cs) = trim cs := List.rdropWhile_idempotent isBlank (trimStart cs)
  have hstart : trimStart (trim cs) = trim cs := by
    refine List.dropWhile_eq_self_iff.2 fun hlength => ?_
    have hfront : trim cs <+: trimStart cs := List.rdropWhile_prefix isBlank _
    rw [hfront.getElem hlength]
    exact List.dropWhile_get_zero_not isBlank cs _
  rw [trim, hstart, hend]

theorem trimmed_trimmed (s : String) : trimmed (trimmed s) = trimmed s := by
  rw [trimmed, trimmed, String.toList_ofList, trim_trim]

theorem trim_map_toLower (cs : List Char) :
    trim (cs.map Char.toLower) = (trim cs).map Char.toLower := by
  have hblank : isBlank ∘ Char.toLower = isBlank := funext isBlank_toLower
  simp only [trim, trimStart, trimEnd, List.dropWhile_map, hblank, ← List.map_reverse]

theorem trimmed_lower (s : String) : trimmed (lower s) = lower (trimmed s) := by
  rw [trimmed, trimmed, lower, lower, String.toList_ofList, String.toList_ofList, trim_map_toLower]

/-! ## Pieces -/

/-- A text may be cut before its letters are changed, or behind. -/
theorem splitAt_map_toLower (hsep : sep.toNat < 65) (cs : List Char) :
    splitAt sep (cs.map Char.toLower) = (splitAt sep cs).map (List.map Char.toLower) := by
  induction cs with
  | nil => rfl
  | cons c cs ih =>
    rw [List.map_cons, splitAt, splitAt, ih]
    by_cases hc : c = sep
    · rw [if_pos ((toLower_eq_iff hsep).2 hc), if_pos hc]
      rfl
    · rw [if_neg (mt (toLower_eq_iff hsep).1 hc), if_neg hc]
      cases splitAt sep cs <;> rfl

end RegistryProxy.Text
