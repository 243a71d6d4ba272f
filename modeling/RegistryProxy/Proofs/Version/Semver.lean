import RegistryProxy.Proofs.Version.Precedence
import RegistryProxy.Proofs.Version.Spelling

/-!
# Proofs/Version/Semver — precedence with numbers of any size

`Semver.compare` is precedence as the standard of semantic versions has it: an identifier of digits
is a number, however long it is.  `Version.compare` takes a number of more than 64 bits for a text.
For versions that were read from texts the two orders differ exactly where this matters: when the
first identifiers that tell the versions apart are judged by their text and not by their value
(`compare_eq_semver_iff`).
-/

namespace RegistryProxy

/-! ## The standard -/

namespace Semver

/-- The value of an identifier of digits alone, however many. -/
def integer? (ident : String) : Option Nat :=
  if ident ≠ "" ∧ ident.toList.all Char.isDigit = true then
    some (Nat.ofDigitChars 10 ident.toList 0)
  else none

/-- Numbers are compared by value and stand below all other identifiers, which are compared by
character codes. -/
def compareIdentifier (x y : String) : Ordering :=
  match integer? x, integer? y with
  | some m, some n => Ord.compare m n
  | some _, none => .lt
  | none, some _ => .gt
  | none, none => Ord.compare x y

/-- The first identifiers that differ decide; else the longer list is above. -/
def compareIdentifiers : List String → List String → Ordering :=
  List.compareLex compareIdentifier

/-- A prerelease is below its release. -/
def comparePrerelease : Option String → Option String → Ordering
  | none, none => .eq
  | some _, none => .lt
  | none, some _ => .gt
  | some p, some q =>
    compareIdentifiers ((p.toList.splitOn '.').map String.ofList)
      ((q.toList.splitOn '.').map String.ofList)

/-- **Precedence of semantic versions.** -/
def compare (v w : Version) : Ordering :=
  (Ord.compare v.major w.major).then <|
    (Ord.compare v.minor w.minor).then <|
      (Ord.compare v.patch w.patch).then <|
        comparePrerelease v.prerelease w.prerelease

end Semver

namespace Version

/-! ## Where the orders differ -/

/-- **Two identifiers that are ordered by their texts against the standard**: both are numbers of
more than 64 bits, or one is and the other is no number. -/
inductive Misjudged (x y : String) : Prop
  | numbers {m n : Nat} (left : Semver.integer? x = some m) (right : Semver.integer? y = some n)
    (long : 0x10000000000000000 ≤ m) (long' : 0x10000000000000000 ≤ n)
    (differ : Ord.compare x y ≠ Ord.compare m n)
  | number_text {m : Nat} (left : Semver.integer? x = some m) (right : Semver.integer? y = none)
    (long : 0x10000000000000000 ≤ m) (differ : Ord.compare x y ≠ .lt)
  | text_number {n : Nat} (left : Semver.integer? x = none) (right : Semver.integer? y = some n)
    (long : 0x10000000000000000 ≤ n) (differ : Ord.compare x y ≠ .gt)

/-- **Two lists of identifiers that are told apart by identifiers that are misjudged.**  Where these
are one number for the standard, the identifiers behind them may still make good for it. -/
inductive Misread : List String → List String → Prop
  | here {x y : String} {xs ys : List String} (misjudged : Misjudged x y)
    (behind : Semver.compareIdentifier x y = .eq →
      Semver.compareIdentifiers xs ys ≠ Ord.compare x y) : Misread (x :: xs) (y :: ys)
  | later {x y : String} {xs ys : List String} (same : compareIdentifier x y = .eq)
    (misread : Misread xs ys) : Misread (x :: xs) (y :: ys)

/-- **Two versions of one release whose prereleases are misread.** -/
def Misordered (v w : Version) : Prop :=
  v.major = w.major ∧ v.minor = w.minor ∧ v.patch = w.patch ∧
    ∃ p q, v.prerelease = some p ∧ w.prerelease = some q ∧
      Misread (identifiers p) (identifiers q)

/-! ## Identifiers -/

variable {x y : String} {xs ys : List String} {p? q? : Option String} {s t : String} {v w : Version}

theorem wordValue?_of_noPlus (h : '+' ∉ x.toList) : wordValue? x =
    if !x.toList.isEmpty && x.toList.all Char.isDigit &&
        decide (Decimal.digitsValue x.toList < 0x10000000000000000) then
      some (Decimal.digitsValue x.toList)
    else none := by
  unfold wordValue?
  split
  · next rest heq => exact absurd (heq ▸ List.mem_cons_self) h
  · rfl

/-- **An identifier is a number of 64 bits, a longer number, or no number**, if it is spelled
well. -/
theorem value_cases (h : Identifier x.toList) :
    (∃ n < 0x10000000000000000, Semver.integer? x = some n ∧ wordValue? x = some n) ∨
      (∃ n, 0x10000000000000000 ≤ n ∧ Semver.integer? x = some n ∧ wordValue? x = none) ∨
      (Semver.integer? x = none ∧ wordValue? x = none) := by
  have hne : x ≠ "" := by
    rintro rfl
    exact h.ne_nil rfl
  have hempty : x.toList.isEmpty = false := by simpa using hne
  have hplus : '+' ∉ x.toList := fun hmem => absurd (h.chars '+' hmem) (by decide)
  rw [wordValue?_of_noPlus hplus, Decimal.digitsValue_eq, hempty]
  by_cases hall : x.toList.all Char.isDigit = true
  · have hvalue : Semver.integer? x = some (Nat.ofDigitChars 10 x.toList 0) := if_pos ⟨hne, hall⟩
    rw [hvalue, hall]
    rcases Nat.lt_or_ge (Nat.ofDigitChars 10 x.toList 0) 0x10000000000000000 with hlt | hle
    · exact .inl ⟨_, hlt, rfl, by simp [hlt]⟩
    · exact .inr (.inl ⟨_, hle, rfl, by simpa using hle⟩)
  · refine .inr (.inr ⟨if_neg fun h => hall h.2, ?_⟩)
    rw [Bool.eq_false_iff.2 hall]
    rfl

theorem wordValue?_eq_none (h : Identifier x.toList)
    (hlong : ∀ n, Semver.integer? x = some n → 0x10000000000000000 ≤ n) : wordValue? x = none := by
  rcases value_cases h with ⟨n, hlt, hn, -⟩ | ⟨_, _, _, hnone⟩ | ⟨_, hnone⟩
  · exact absurd (hlong n hn) (Nat.not_le.2 hlt)
  · exact hnone
  · exact hnone

/-- **What is misjudged is compared as text.** -/
theorem Misjudged.compareIdentifier_eq (h : Misjudged x y) (hx : Identifier x.toList)
    (hy : Identifier y.toList) : compareIdentifier x y = Ord.compare x y := by
  have hnone : wordValue? x = none ∧ wordValue? y = none := by
    constructor
    · refine wordValue?_eq_none hx fun n hn => ?_
      cases h <;> simp_all
    · refine wordValue?_eq_none hy fun n hn => ?_
      cases h <;> simp_all
  rw [compareIdentifier, hnone.1, hnone.2]

theorem compareIdentifier_ne_iff (hx : Identifier x.toList) (hy : Identifier y.toList) :
    compareIdentifier x y ≠ Semver.compareIdentifier x y ↔ Misjudged x y := by
  constructor
  · intro h
    rw [compareIdentifier, Semver.compareIdentifier] at h
    rcases value_cases hx with ⟨m, hm, hx, hx'⟩ | ⟨m, hm, hx, hx'⟩ | ⟨hx, hx'⟩ <;>
      rcases value_cases hy with ⟨n, hn, hy, hy'⟩ | ⟨n, hn, hy, hy'⟩ | ⟨hy, hy'⟩ <;>
        simp only [hx, hx', hy, hy', ne_eq, not_true_eq_false] at h
    -- A number of 64 bits is below a longer one, by either order.
    · exact absurd (Nat.compare_eq_lt.2 (by omega)).symm h
    · exact absurd (Nat.compare_eq_gt.2 (by omega)).symm h
    · exact .numbers hx hy hm hn h
    · exact .number_text hx hy hm h
    · exact .text_number hx hy hn h
  · intro h
    rw [h.compareIdentifier_eq hx hy, Semver.compareIdentifier]
    cases h with
    | numbers left right _ _ differ => simpa only [left, right] using differ
    | number_text left right _ differ => simpa only [left, right] using differ
    | text_number left right _ differ => simpa only [left, right] using differ

theorem Misjudged.ne (h : Misjudged x y) : x ≠ y := by
  rintro rfl
  cases h with
  | numbers left right _ _ differ =>
    cases left.symm.trans right
    exact differ (Std.ReflCmp.compare_self.trans Std.ReflCmp.compare_self.symm)
  | number_text left right | text_number left right => cases left.symm.trans right

/-- Identifiers that nothing tells apart are not misjudged. -/
theorem not_misjudged_of_eq (hx : Identifier x.toList) (hy : Identifier y.toList)
    (h : compareIdentifier x y = .eq) : ¬ Misjudged x y := by
  intro hmis
  rw [hmis.compareIdentifier_eq hx hy] at h
  exact hmis.ne (Std.LawfulEqCmp.eq_of_compare h)

/-! ## Lists of identifiers -/

theorem then_of_ne {o p : Ordering} (h : o ≠ .eq) : o.then p = o := by
  cases o <;> simp_all

theorem then_ne_then_iff {o p q : Ordering} : o.then p ≠ o.then q ↔ o = .eq ∧ p ≠ q := by
  cases o <;> simp

/-- **The first identifiers that tell two lists apart decide**, rightly or wrongly. -/
theorem compareIdentifiers_ne_iff (hxs : ∀ x ∈ xs, Identifier x.toList)
    (hys : ∀ y ∈ ys, Identifier y.toList) :
    compareIdentifiers xs ys ≠ Semver.compareIdentifiers xs ys ↔ Misread xs ys := by
  induction xs generalizing ys with
  | nil => cases ys <;> exact iff_of_false (not_not_intro rfl) (by rintro ⟨⟩)
  | cons x xs ih =>
    cases ys with
    | nil => exact iff_of_false (not_not_intro rfl) (by rintro ⟨⟩)
    | cons y ys =>
      obtain ⟨hx, hxs⟩ := List.forall_mem_cons.1 hxs
      obtain ⟨hy, hys⟩ := List.forall_mem_cons.1 hys
      have hsemver : Semver.compareIdentifiers (x :: xs) (y :: ys) =
          (Semver.compareIdentifier x y).then (Semver.compareIdentifiers xs ys) :=
        List.compareLex_cons_cons
      rw [compareIdentifiers, hsemver]
      by_cases hmis : Misjudged x y
      · have hne : compareIdentifier x y ≠ .eq := fun heq => not_misjudged_of_eq hx hy heq hmis
        have hwrong := (compareIdentifier_ne_iff hx hy).2 hmis
        rw [then_of_ne hne]
        rw [hmis.compareIdentifier_eq hx hy] at hne hwrong ⊢
        constructor
        · intro h
          refine .here hmis fun heq hbehind => h ?_
          rw [heq, Ordering.eq_then, hbehind]
        · rintro (⟨-, behind⟩ | ⟨heq, -⟩)
          · by_cases heq : Semver.compareIdentifier x y = .eq
            · rw [heq, Ordering.eq_then]
              exact (behind heq).symm
            · rwa [then_of_ne heq]
          · exact absurd hmis (not_misjudged_of_eq hx hy heq)
      · have hsame : compareIdentifier x y = Semver.compareIdentifier x y :=
          Classical.not_not.1 fun hne => hmis ((compareIdentifier_ne_iff hx hy).1 hne)
        rw [← hsame, then_ne_then_iff, ih hxs hys]
        constructor
        · rintro ⟨heq, hmisread⟩
          exact .later heq hmisread
        · rintro (⟨hmis', _⟩ | ⟨heq, hmisread⟩)
          · exact absurd hmis' hmis
          · exact ⟨heq, hmisread⟩

/-! ## Versions -/

/-- A version that was read has identifiers that can be spelled. -/
theorem identifiers_of_parse {p : String} (h : parse s = .ok v) (hp : v.prerelease = some p) :
    ∀ x ∈ identifiers p, Identifier x.toList := by
  obtain ⟨_, _, _, pre, _, _, _, _, _, _, hpre, _⟩ := spells_of_parse h
  rw [hp] at hpre
  intro x hx
  obtain ⟨part, hpart, rfl⟩ := List.mem_map.1 hx
  rw [String.toList_ofList]
  exact identifiers_iff.1 hpre.identifiers part hpart

theorem comparePrerelease_ne_iff
    (hp : ∀ p, p? = some p → ∀ x ∈ identifiers p, Identifier x.toList)
    (hq : ∀ q, q? = some q → ∀ y ∈ identifiers q, Identifier y.toList) :
    comparePrerelease p? q? ≠ Semver.comparePrerelease p? q? ↔
      ∃ p q, p? = some p ∧ q? = some q ∧ Misread (identifiers p) (identifiers q) := by
  cases p? with
  | none => cases q? <;> exact iff_of_false (not_not_intro rfl) (by simp)
  | some p =>
    cases q? with
    | none => exact iff_of_false (not_not_intro rfl) (by simp)
    | some q =>
      simp only [comparePrerelease, Semver.comparePrerelease, ← Text.splitAt_eq_splitOn,
        Option.some.injEq, exists_and_left, exists_eq_left']
      exact compareIdentifiers_ne_iff (hp p rfl) (hq q rfl)

/-- **When precedence is that of the standard.**  For two texts that are read as versions, it is so
if and only if it is not the case that they are of one release and their prereleases are told apart
by identifiers of which one is a number of more than 64 bits, and which their texts do not order as
the standard does. -/
theorem compare_eq_semver_iff (hv : parse s = .ok v) (hw : parse t = .ok w) :
    compare v w = Semver.compare v w ↔ ¬ Misordered v w := by
  have hne : compare v w ≠ Semver.compare v w ↔ Misordered v w := by
    rw [compare, Semver.compare, Misordered]
    simp only [then_ne_then_iff, Nat.compare_eq_eq]
    rw [comparePrerelease_ne_iff (fun _ => identifiers_of_parse hv) fun _ =>
      identifiers_of_parse hw]
  rw [← hne, Classical.not_not]

/-- A prerelease of the first release. -/
def ofFirst (prerelease : String) : Version where
  major := 1
  minor := 0
  patch := 0
  prerelease := some prerelease

/-- Numbers of more than 64 bits are in order when their texts are. -/
theorem compare_eq_semver_iff_long :
    parse "1.0.0-rc.18446744073709551616" = .ok (ofFirst "rc.18446744073709551616") ∧
      parse "1.0.0-rc.18446744073709551617.0" = .ok (ofFirst "rc.18446744073709551617.0") ∧
      ¬ Misordered (ofFirst "rc.18446744073709551616") (ofFirst "rc.18446744073709551617.0") := by
  have hv : parse "1.0.0-rc.18446744073709551616" = .ok (ofFirst "rc.18446744073709551616") :=
    rfl
  have hw : parse "1.0.0-rc.18446744073709551617.0" =
      .ok (ofFirst "rc.18446744073709551617.0") := rfl
  exact ⟨hv, hw, (compare_eq_semver_iff hv hw).1 (by decide +kernel)⟩

/-- **A number of more than 64 bits is put above a greater one** when its first digit is greater. -/
theorem long_numbers_misordered :
    parse "1.0.0-99999999999999999999" = .ok (ofFirst "99999999999999999999") ∧
      parse "1.0.0-100000000000000000000" = .ok (ofFirst "100000000000000000000") ∧
      Semver.compare (ofFirst "99999999999999999999") (ofFirst "100000000000000000000") = .lt ∧
      compare (ofFirst "99999999999999999999") (ofFirst "100000000000000000000") = .gt :=
  ⟨rfl, rfl, by decide +kernel, by decide +kernel⟩

end Version

end RegistryProxy
