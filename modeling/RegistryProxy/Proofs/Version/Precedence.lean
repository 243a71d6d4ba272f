import RegistryProxy.Version.Order
import RegistryProxy.Version.Parser

/-!
# Proofs/Version/Precedence — precedence is a total preorder

Versions are compared by one thing after the other, and each of these comparisons is a total
preorder: that of identifiers because numbers stand below all others (`compareIdentifier_eq`), that
of lists of identifiers and of prereleases from it.  So is precedence, for all versions, also those
that no text spells (`compare_lawful`).  `UpTo` is precedence of the texts that spell versions.
-/

namespace RegistryProxy.Version

/-- **Identifiers are compared by three things**: whether they are numbers, their value, and their
spelling if they are none. -/
theorem compareIdentifier_eq : compareIdentifier =
    compareLex (compareOn fun x => (wordValue? x).isNone)
      (compareLex (compareOn fun x => (wordValue? x).getD 0)
        (compareOn fun x => if (wordValue? x).isNone then x else "")) := by
  funext x y
  rw [compareIdentifier]
  cases hx : wordValue? x with
  | none =>
    cases hy : wordValue? y with
    | none => simp [compareLex, compareOn, hx, hy]
    | some n => simp [compareLex, compareOn, hx, hy]; rfl
  | some m =>
    cases hy : wordValue? y with
    | none => simp [compareLex, compareOn, hx, hy]; rfl
    | some n => simp [compareLex, compareOn, hx, hy]

instance : Std.TransCmp compareIdentifier := by
  rw [compareIdentifier_eq]
  infer_instance

theorem compareIdentifiers_eq : compareIdentifiers = List.compareLex compareIdentifier := by
  funext xs ys
  induction xs generalizing ys with
  | nil => cases ys <;> rfl
  | cons x xs ih =>
    cases ys with
    | nil => rfl
    | cons y ys => rw [compareIdentifiers, List.compareLex_cons_cons, ih]

instance : Std.TransCmp compareIdentifiers := by
  rw [compareIdentifiers_eq]
  infer_instance

instance : Std.TransCmp comparePrerelease where
  eq_swap {a b} := by
    cases a with
    | none => cases b <;> rfl
    | some a =>
      cases b with
      | none => rfl
      | some b => exact @Std.OrientedCmp.eq_swap _ compareIdentifiers _ _ _
  isLE_trans {a b c} hab hbc := by
    cases c with
    | none => cases a <;> rfl
    | some c =>
      -- What is not above a prerelease is one.
      obtain ⟨b, rfl⟩ : ∃ b', b = some b' := by
        cases b with
        | none => exact absurd hbc (by simp [comparePrerelease])
        | some b => exact ⟨b, rfl⟩
      obtain ⟨a, rfl⟩ : ∃ a', a = some a' := by
        cases a with
        | none => exact absurd hab (by simp [comparePrerelease])
        | some a => exact ⟨a, rfl⟩
      exact @Std.TransCmp.isLE_trans _ compareIdentifiers _ _ _ _ hab hbc

theorem compare_eq : compare =
    compareLex (compareOn major) (compareLex (compareOn minor) (compareLex (compareOn patch)
      fun a b => comparePrerelease a.prerelease b.prerelease)) := rfl

instance : Std.TransCmp compare := by
  have hpre : Std.TransCmp fun a b : Version => comparePrerelease a.prerelease b.prerelease := {
    eq_swap := @fun _ _ => @Std.OrientedCmp.eq_swap _ comparePrerelease _ _ _
    isLE_trans := @fun _ _ _ => @Std.TransCmp.isLE_trans _ comparePrerelease _ _ _ _ }
  rw [compare_eq]
  infer_instance

/-! ## Versions of equal precedence -/

section Laws

variable {a b c a' b' : Version}

theorem samePrecedence_iff : samePrecedence a b = true ↔ compare a b = .eq := by
  rw [samePrecedence, beq_iff_eq]

theorem compare_eq_lt_trans (hab : (compare a b).isLE = true) (hbc : (compare b c).isLE = true)
    (hlt : compare a b = .lt ∨ compare b c = .lt) : compare a c = .lt := by
  rcases hlt with hlt | hlt
  · exact Std.TransCmp.lt_of_lt_of_isLE hlt hbc
  · exact Std.TransCmp.lt_of_isLE_of_lt hab hlt

theorem equivalence_samePrecedence : Equivalence fun a b => samePrecedence a b = true where
  refl _ := samePrecedence_iff.2 Std.ReflCmp.compare_self
  symm h := samePrecedence_iff.2 (Std.OrientedCmp.eq_symm (samePrecedence_iff.1 h))
  trans h h' := samePrecedence_iff.2
    (Std.TransCmp.eq_trans (samePrecedence_iff.1 h) (samePrecedence_iff.1 h'))

/-- A version may stand for another of equal precedence. -/
theorem compare_congr (ha : samePrecedence a a' = true) (hb : samePrecedence b b' = true) :
    compare a b = compare a' b' :=
  (Std.TransCmp.congr_left (samePrecedence_iff.1 ha)).trans
    (Std.TransCmp.congr_right (samePrecedence_iff.1 hb))

/-- **Precedence is a lawful total preorder** of all versions, whatever their prereleases are.  A
version is as high as itself; the other way round the answer is the reverse; what is not above what
is not above a third is not above the third, and below it if it is below at either place.  Having
equal precedence is an equivalence that the order respects, and build metadata has no say. -/
theorem compare_lawful :
    (∀ a : Version, compare a a = .eq) ∧
      (∀ a b : Version, compare b a = (compare a b).swap) ∧
      (∀ a b c : Version, (compare a b).isLE = true → (compare b c).isLE = true →
        (compare a c).isLE = true ∧
          (compare a b = .lt ∨ compare b c = .lt → compare a c = .lt)) ∧
      (∀ a b : Version, samePrecedence a b = true ↔ compare a b = .eq) ∧
      Equivalence (fun a b : Version => samePrecedence a b = true) ∧
      (∀ a a' b b' : Version, samePrecedence a a' = true → samePrecedence b b' = true →
        compare a b = compare a' b') ∧
      ∀ (a b : Version) (build build' : Option String),
        compare { a with build } { b with build := build' } = compare a b ∧
          samePrecedence { a with build } { b with build := build' } = samePrecedence a b :=
  ⟨fun _ => Std.ReflCmp.compare_self, fun _ _ => Std.OrientedCmp.eq_swap,
    fun _ _ _ hab hbc => ⟨Std.TransCmp.isLE_trans hab hbc, compare_eq_lt_trans hab hbc⟩,
    fun _ _ => samePrecedence_iff, equivalence_samePrecedence,
    fun _ _ _ _ ha hb => compare_congr ha hb, fun _ _ _ _ => ⟨rfl, rfl⟩⟩

/-- A plus and zeros in front of a number do not count; a number of more than 64 bits is a text. -/
example :
    let pre (p : String) : Version := { major := 1, minor := 0, patch := 0, prerelease := some p }
    [compare (pre "+5") (pre "05"), compare (pre "5") (pre "18446744073709551616"),
      compare (pre "18446744073709551616") (pre "2"), compare (pre "") (pre "é")] =
        [.eq, .lt, .gt, .lt] := by decide +kernel

end Laws

/-! ## Texts that spell versions -/

/-- Both texts spell versions, and the first is not the newer. -/
def UpTo (text text' : String) : Prop :=
  ∃ v v', parse? text = some v ∧ parse? text' = some v' ∧ (compare v v').isLE = true

namespace UpTo

variable {a b c : String}

theorem refl (h : (parse? a).isSome) : UpTo a a := by
  obtain ⟨v, hv⟩ := Option.isSome_iff_exists.1 h
  exact ⟨v, v, hv, hv, Std.ReflCmp.isLE_rfl⟩

theorem trans (hab : UpTo a b) (hbc : UpTo b c) : UpTo a c := by
  obtain ⟨v, w, hv, hw, hvw⟩ := hab
  obtain ⟨w', x, hw', hx, hwx⟩ := hbc
  obtain rfl : w = w' := Option.some.inj (hw.symm.trans hw')
  exact ⟨v, x, hv, hx, Std.TransCmp.isLE_trans hvw hwx⟩

/-- Of two texts that spell versions, the one that is not the newer is up to the other. -/
theorem total (ha : (parse? a).isSome) (hb : (parse? b).isSome) (h : ¬ UpTo a b) : UpTo b a := by
  obtain ⟨v, hv⟩ := Option.isSome_iff_exists.1 ha
  obtain ⟨w, hw⟩ := Option.isSome_iff_exists.1 hb
  refine ⟨w, v, hw, hv, ?_⟩
  cases hvw : compare v w with
  | gt => rw [@Std.OrientedCmp.eq_swap _ compare _ w v, hvw]; rfl
  | lt | eq => exact absurd ⟨v, w, hv, hw, by rw [hvw]; rfl⟩ h

/-- **Texts that are up to each other spell versions of equal precedence.** -/
theorem antisymm (hab : UpTo a b) (hba : UpTo b a) :
    ∃ v w, parse? a = some v ∧ parse? b = some w ∧ compare v w = .eq := by
  obtain ⟨v, w, hv, hw, hvw⟩ := hab
  obtain ⟨w', v', hw', hv', hwv⟩ := hba
  obtain rfl : w = w' := Option.some.inj (hw.symm.trans hw')
  obtain rfl : v = v' := Option.some.inj (hv.symm.trans hv')
  exact ⟨v, w, hv, hw, Std.OrientedCmp.isLE_antisymm hvw hwv⟩

end UpTo

end RegistryProxy.Version
