import RegistryProxy.Binary64.Decimal
import RegistryProxy.Proofs.Binary64.Rounding

/-!
# Proofs/Binary64/Shortest — the shortest decimal is no further than the largest magnitude

The shortest decimal has at most seventeen digits and rounds to the magnitude, so it is not above
the middle where magnitudes overflow (`bounded_shortest`).  A reader that rounds the digits and the
power of ten one by one and multiplies them rounds three times, and could overflow where one
rounding does not; it never does (`product_ne_infinite`).  Only one decimal of seventeen digits
comes close enough, and it is not the shortest of its magnitude.
-/

namespace RegistryProxy.Magnitude

variable {num den a digits : Nat} {i power : Int}

/-- What a decimal is worth. -/
def decimalWorth (digits : Nat) (power : Int) : ℚ := digits * 10 ^ power

theorem tenPow_cast (k : Int) : (tenPow k : ℚ) = 10 ^ k * tenPow (-k) := by
  obtain ⟨n, rfl | rfl⟩ := k.eq_nat_or_neg
  · simp [tenPow]
  · simp [tenPow]

theorem tenPow_pos (k : Int) : (0 : ℚ) < tenPow k :=
  Nat.cast_pos.2 (Nat.pow_pos (by decide))

theorem decimalWorth_eq (digits : Nat) (power : Int) :
    ((digits * tenPow power : Nat) : ℚ) / tenPow (-power) = decimalWorth digits power := by
  rw [div_eq_iff (tenPow_pos _).ne', Nat.cast_mul, tenPow_cast power, decimalWorth, mul_assoc]

theorem tenPow_of_nonneg {k : Int} (h : 0 ≤ k) : (tenPow k : ℚ) = 10 ^ k := by
  have hone : tenPow (-k) = 1 := by rw [tenPow, Int.toNat_of_nonpos (by omega)]
  rw [tenPow_cast, hone, Nat.cast_one, mul_one]

/-- **A number that stays below the middle** when it grows by one part in `2 ^ 53`. -/
def StaysBelow (n : Nat) : Prop := n * 0x20000000000001 < overflow * 0x20000000000000

instance (n : Nat) : Decidable (StaysBelow n) := inferInstanceAs (Decidable (_ < _))

theorem StaysBelow.lt {n : Nat} (h : StaysBelow n) : (n : ℚ) * (1 + 1 / 2 ^ 53) < overflow := by
  rw [StaysBelow] at h
  generalize overflow = m at *
  have hcast : (n : ℚ) * 0x20000000000001 < m * 0x20000000000000 := by exact_mod_cast h
  linarith

/-! ## Reading a decimal -/

/-- **A decimal that rounds to a magnitude is not above the middle.** -/
theorem le_overflow_of_ofDecimal (h : ofDecimal digits power = .finite a i) (ha : a ≠ 0) :
    decimalWorth digits power ≤ overflow := by
  rw [ofDecimal] at h
  split at h
  next =>
    cases h
    exact absurd rfl ha
  split at h
  next => cases h
  split at h
  next =>
    cases h
    exact absurd rfl ha
  next =>
    have hden : 0 < tenPow (-power) := Nat.pow_pos (by decide)
    exact decimalWorth_eq digits power ▸ le_overflow_of_ofRatio hden h

/-- A power of ten is not rounded up by much. -/
theorem exists_ofDecimal_one (hlow : 0 ≤ power) (hhigh : power ≤ 308) :
    ∃ a i, ofDecimal 1 power = .finite a i ∧ worth a i ≤ 10 ^ power * (1 + 1 / 2 ^ 53) := by
  have hofRatio : ofDecimal 1 power = ofRatio (tenPow power) (tenPow (-power)) := by
    have hplaces : ((Decimal.digitsText 1).length : Int) = 1 := rfl
    rw [ofDecimal, if_neg (by decide), hplaces, if_neg (by omega), if_neg (by omega), Nat.one_mul]
  have hden : 0 < tenPow (-power) := Nat.pow_pos (by decide)
  have hworth := decimalWorth_eq 1 power
  rw [decimalWorth, Nat.one_mul, Nat.cast_one, one_mul] at hworth
  have hone : (1 : ℚ) ≤ 10 ^ power := one_le_zpow₀ (by norm_num) hlow
  have hlt : (10 : ℚ) ^ power < overflow := by
    have hle : (10 : ℚ) ^ power ≤ 10 ^ (308 : Int) := zpow_le_zpow_right₀ (by norm_num) hhigh
    rw [← tenPow_of_nonneg (k := 308) (by decide)] at hle
    exact hle.trans_lt (Nat.cast_lt.2 (by decide +kernel))
  cases hm : ofRatio (tenPow power) (tenPow (-power)) with
  | infinite => exact absurd hm (ofRatio_ne_infinite hden (hworth ▸ hlt))
  | finite a i =>
    have hround := worth_le_of_ofRatio hden (hworth ▸ hone) hm
    rw [hworth] at hround
    exact ⟨a, i, hofRatio.trans hm, hround⟩

/-! ## The digits -/

theorem length_digitsText_le {n k : Nat} (hk : 0 < k) :
    (Decimal.digitsText n).length ≤ k ↔ n < Nat.pow 10 k :=
  Nat.length_toDigits_le_iff (by decide) hk

/-- The number of digits tells between which powers of ten a number is. -/
theorem length_bounds {n : Nat} (h : 0 < n) :
    (10 : ℚ) ^ (((Decimal.digitsText n).length : Int) - 1) ≤ n ∧
      (n : ℚ) < 10 ^ ((Decimal.digitsText n).length : Int) := by
  have hpos : 0 < (Decimal.digitsText n).length := List.length_pos_iff.2 Nat.toDigits_ne_nil
  generalize hlength : (Decimal.digitsText n).length = k at *
  constructor
  · obtain ⟨k, rfl⟩ := Nat.exists_eq_succ_of_ne_zero hpos.ne'
    rcases Nat.eq_zero_or_pos k with rfl | hk
    · simpa using Nat.one_le_iff_ne_zero.2 h.ne'
    · have hle : Nat.pow 10 k ≤ n := by
        refine Nat.not_lt.1 fun hlt => ?_
        have := (length_digitsText_le hk).2 hlt
        omega
      rw [Nat.succ_eq_add_one, Nat.cast_add_one, add_sub_cancel_right, zpow_natCast]
      exact_mod_cast hle
  · have hlt := (length_digitsText_le hpos).1 hlength.le
    rw [zpow_natCast]
    exact_mod_cast hlt

/-- **The places before the point are enough.** -/
theorem lt_decimalPlaces (hnum : 0 < num) (hden : 0 < den) :
    (num : ℚ) / den < 10 ^ decimalPlaces num den := by
  have hpos : (0 : ℚ) < den := Nat.cast_pos.2 hden
  obtain ⟨-, hhigh⟩ := length_bounds hnum
  obtain ⟨hlow, -⟩ := length_bounds hden
  rw [decimalPlaces]
  generalize hguess : ((Decimal.digitsText num).length : Int) - (Decimal.digitsText den).length = k
  rw [div_lt_iff₀ hpos]
  split
  next h =>
    have hlt : (num : ℚ) * tenPow (-k) < den * (10 ^ k * tenPow (-k)) := by
      rw [← tenPow_cast]
      exact_mod_cast h
    refine lt_of_mul_lt_mul_right ?_ (tenPow_pos (-k)).le
    linarith
  next =>
    calc (num : ℚ) < 10 ^ ((Decimal.digitsText num).length : Int) := hhigh
      _ = 10 ^ (k + 1) * 10 ^ (((Decimal.digitsText den).length : Int) - 1) := by
        rw [← zpow_add₀ (by norm_num), ← hguess]
        congr 1
        omega
      _ ≤ 10 ^ (k + 1) * den := by gcongr

/-- Below a power of ten, the digits on a grid are no more than there are places. -/
theorem grid_lt (hden : 0 < den) {places : Int} {count : Nat}
    (hlt : (num : ℚ) / den < 10 ^ places) :
    num * tenPow (-(places - count)) / (den * tenPow (places - count)) < Nat.pow 10 count := by
  have hpos : (0 : ℚ) < den := Nat.cast_pos.2 hden
  refine Nat.div_lt_of_lt_mul ?_
  rw [div_lt_iff₀ hpos] at hlt
  have hplaces : (10 : ℚ) ^ places = 10 ^ (places - count) * 10 ^ count := by
    rw [← zpow_natCast, ← zpow_add₀ (by norm_num), sub_add_cancel]
  have hcast := mul_lt_mul_of_pos_right hlt (tenPow_pos (-(places - count)))
  rw [hplaces] at hcast
  have hgoal : ((num * tenPow (-(places - count)) : Nat) : ℚ) <
      (den * tenPow (places - count) * Nat.pow 10 count : Nat) := by
    rw [Nat.cast_mul, Nat.cast_mul, Nat.cast_mul, tenPow_cast (places - count), Nat.pow_eq,
      Nat.cast_pow]
    push_cast
    linarith
  exact_mod_cast hgoal

/-- Of two candidates, the one that is taken reads back. -/
theorem of_tried {m : Magnitude} {near far : Nat} {P : Nat → Prop} (hnear : P near) (hfar : P far)
    (h : (if ofDecimal near power = m then some near
      else if ofDecimal far power = m then some far else none) = some digits) :
    ofDecimal digits power = m ∧ P digits := by
  split at h
  next hread => exact Option.some.inj h ▸ ⟨hread, hnear⟩
  next =>
    split at h
    next hread => exact Option.some.inj h ▸ ⟨hread, hfar⟩
    next => cases h

/-- What is found on a grid reads back, and has no more digits than there are places. -/
theorem readingBack_eq_some {m : Magnitude} (hden : 0 < den) {places : Int} {count : Nat}
    (hlt : (num : ℚ) / den < 10 ^ places)
    (h : readingBack m num den (places - count) = some digits) :
    ofDecimal digits (places - count) = m ∧ digits ≤ Nat.pow 10 count := by
  have hbelow : _ < Nat.pow 10 count := grid_lt hden hlt
  rw [readingBack] at h
  refine of_tried (P := (· ≤ Nat.pow 10 count)) ?_ ?_ h
  · split
    · exact hbelow.le
    · exact hbelow
  · split
    · rw [if_pos rfl]
      exact hbelow
    · rw [if_neg (Nat.succ_ne_self _)]
      exact hbelow.le

theorem shortestFrom_cases {m : Magnitude} (hden : 0 < den) {places : Int}
    (hlt : (num : ℚ) / den < 10 ^ places) (count fuel : Nat) :
    shortestFrom m num den places count fuel = (0, 0) ∨
      ∃ digits power, shortestFrom m num den places count fuel = (digits, power) ∧
        ofDecimal digits power = m ∧ digits ≤ Nat.pow 10 (count + fuel - 1) := by
  induction fuel generalizing count with
  | zero => exact .inl rfl
  | succ fuel ih =>
    rw [shortestFrom]
    split
    next digits hfound =>
      obtain ⟨hread, hle⟩ := readingBack_eq_some hden hlt hfound
      exact .inr ⟨digits, _, rfl, hread,
        hle.trans (Nat.pow_le_pow_right (by decide) (by omega))⟩
    next =>
      have hcount : count + (fuel + 1) - 1 = count + 1 + fuel - 1 := by omega
      rw [hcount]
      exact ih (count + 1)

/-- **Zeros at the end are dropped into the power.** -/
theorem dropZeros_spec (fuel digits : Nat) (power : Int) :
    decimalWorth (dropZeros fuel digits power).1 (dropZeros fuel digits power).2 =
        decimalWorth digits power ∧
      (dropZeros fuel digits power = (digits, power) ∨
        10 * (dropZeros fuel digits power).1 ≤ digits) := by
  induction fuel generalizing digits power with
  | zero => exact ⟨rfl, .inl rfl⟩
  | succ fuel ih =>
    rw [dropZeros]
    split
    next h =>
      obtain ⟨hworth, hdigits⟩ := ih (digits / 10) (power + 1)
      have hten : digits = digits / 10 * 10 :=
        (Nat.div_mul_cancel (Nat.dvd_of_mod_eq_zero h.1)).symm
      refine ⟨hworth.trans ?_, .inr ?_⟩
      · rw [decimalWorth, decimalWorth, zpow_add_one₀ (by norm_num)]
        have hcast : (digits : ℚ) = (digits / 10 : Nat) * 10 := by exact_mod_cast hten
        rw [hcast]
        ring
      · rcases hdigits with heq | hle
        · rw [heq]
          omega
        · omega
    next => exact ⟨rfl, .inl rfl⟩

/-! ## The shortest decimal -/

/-- **A decimal that a document may be written with**: it has no more than seventeen digits and is
not above the middle, and it is not the one that rounds down in one step but up in three. -/
structure Bounded (digits : Nat) (power : Int) : Prop where
  /-- There are seventeen digits at most. -/
  digits_le : digits ≤ 100000000000000000
  /-- It is not above the middle. -/
  worth_le : decimalWorth digits power ≤ overflow
  /-- It is not the largest decimal of seventeen digits. -/
  ne_largest : digits = 17976931348623158 → power ≠ 292

theorem bounded_zero : Bounded 0 0 where
  digits_le := Nat.zero_le _
  worth_le := by
    rw [decimalWorth, Nat.cast_zero, zero_mul]
    exact Nat.cast_nonneg _
  ne_largest := nofun

/-- **The shortest decimal of a magnitude is bounded.** -/
theorem bounded_shortest (a : Nat) (i : Int) : Bounded (shortest a i).1 (shortest a i).2 := by
  by_cases ha : a = 0
  · rw [shortest, if_pos ha]
    exact bounded_zero
  have hnum : 0 < (ratio a i).1 := Nat.mul_pos (Nat.pos_of_ne_zero ha) (Nat.pow_pos (by decide))
  have hden : 0 < (ratio a i).2 := Nat.pow_pos (by decide)
  have hshortest : shortest a i = dropZeros 20
      (shortestFrom (.finite a i) (ratio a i).1 (ratio a i).2
        (decimalPlaces (ratio a i).1 (ratio a i).2) 1 17).1
      (shortestFrom (.finite a i) (ratio a i).1 (ratio a i).2
        (decimalPlaces (ratio a i).1 (ratio a i).2) 1 17).2 := by
    rw [shortest, if_neg ha]
  rcases shortestFrom_cases (m := .finite a i) hden (lt_decimalPlaces hnum hden) 1 17 with
    hnone | ⟨digits, power, hfound, hread, hle⟩
  · rw [hnone] at hshortest
    rw [hshortest]
    exact bounded_zero
  · rw [hfound] at hshortest
    obtain ⟨hworth, hdropped⟩ := dropZeros_spec 20 digits power
    rw [← hshortest] at hworth hdropped
    change digits ≤ 100000000000000000 at hle
    refine ⟨?_, hworth ▸ le_overflow_of_ofDecimal hread ha, fun hdigits hpower => ?_⟩
    · rcases hdropped with heq | hdropped
      · rw [heq]
        exact hle
      · omega
    · have hpair : shortest a i = (17976931348623158, 292) := Prod.ext hdigits hpower
      rcases hdropped with heq | hdropped
      · -- What rounds to the largest magnitude is not its shortest decimal.
        have hlargest : ofDecimal 17976931348623158 292 = .finite 0x1fffffffffffff 971 := by
          decide +kernel
        have hother : shortest 0x1fffffffffffff 971 = (17976931348623157, 292) := by
          decide +kernel
        rw [hpair] at heq
        cases heq
        cases hread.symm.trans hlargest
        cases hpair.symm.trans hother
      · omega

/-! ## Rounding three times -/

/-- The digits are not rounded up by much. -/
theorem exists_ofNat {n : Nat} (h : n < 0x10000000000000000) :
    ∃ a i, ofNat n = .finite a i ∧ worth a i ≤ n * (1 + 1 / 2 ^ 53) := by
  rcases Nat.eq_zero_or_pos n with rfl | hpos
  · exact ⟨0, minExponent, rfl, by simp [worth]⟩
  have hone : (1 : ℚ) ≤ n / (1 : Nat) := by
    rw [Nat.cast_one, div_one]
    exact_mod_cast hpos
  have hlt : (n : ℚ) / (1 : Nat) < overflow := by
    rw [Nat.cast_one, div_one]
    exact Nat.cast_lt.2 (h.trans (by decide +kernel))
  cases hm : ofRatio n 1 with
  | infinite => exact absurd hm (ofRatio_ne_infinite Nat.one_pos hlt)
  | finite a i =>
    have hround := worth_le_of_ofRatio Nat.one_pos hone hm
    rw [Nat.cast_one, div_one] at hround
    exact ⟨a, i, hm, hround⟩

/-- The largest digits are rounded down. -/
theorem worth_le_of_ofNat (hdigits : digits ≤ 17976931348623157) (h : ofNat digits = .finite a i) :
    worth a i ≤ 17976931348623156 := by
  have hlargest : ∀ k < 3, ofNat (17976931348623155 + k) = .finite 8988465674311578 1 := by
    decide +kernel
  rcases Nat.lt_or_ge digits 17976931348623155 with hlt | hge
  · obtain ⟨a', i', hfinite, hworth⟩ := exists_ofNat (n := digits) (by omega)
    cases hfinite.symm.trans h
    have hcast : (digits : ℚ) ≤ 17976931348623154 := by exact_mod_cast Nat.le_of_lt_succ hlt
    linarith
  · have hsame := hlargest (digits - 17976931348623155) (by omega)
    rw [Nat.add_sub_cancel' hge] at hsame
    cases hsame.symm.trans h
    norm_num [worth]

theorem le_of_mul_le {n k m q : Nat} (hk : 0 < k) (hq : m / k = q) (h : n * k ≤ m) : n ≤ q :=
  hq ▸ (Nat.le_div_iff_mul_le hk).2 h

theorem mul_le_cast {x : ℚ} {n : Nat} (h : x ≤ n) (k : Nat) : x * k ≤ (n * k : Nat) :=
  (mul_le_mul_of_nonneg_right h (Nat.cast_nonneg k)).trans (Nat.cast_mul n k).ge

theorem le_tenPow {k l : Int} (h : k ≤ l) : tenPow k ≤ tenPow l :=
  Nat.pow_le_pow_right (by decide) (Int.toNat_le_toNat h)

/-- A power below the largest leaves space for all digits. -/
theorem exists_staysBelow_of_lt (h : Bounded digits power) (hfinite : ofNat digits = .finite a i)
    (hpower : power < 292) : ∃ n : Nat, worth a i * tenPow power ≤ n ∧ StaysBelow n := by
  have hworth : worth a i ≤ (100000000000000016 : Nat) := by
    obtain ⟨a', i', hfinite', hround⟩ := exists_ofNat (h.digits_le.trans_lt (by decide))
    cases hfinite'.symm.trans hfinite
    have hcast : (digits : ℚ) ≤ 100000000000000000 := by exact_mod_cast h.digits_le
    rw [Nat.cast_ofNat]
    linarith
  have hten : tenPow power ≤ tenPow 291 := le_tenPow (by omega)
  exact ⟨100000000000000016 * tenPow 291, (mul_le_cast hworth (tenPow power)).trans
    (Nat.cast_le.2 (Nat.mul_le_mul_left _ hten)), by decide +kernel⟩

/-- A power above it leaves space for digits that are not rounded. -/
theorem exists_staysBelow_of_gt (hle : digits * tenPow power ≤ overflow)
    (hfinite : ofNat digits = .finite a i) (hpower : 292 < power) :
    ∃ n : Nat, worth a i * tenPow power ≤ n ∧ StaysBelow n := by
  obtain ⟨k, hk, hpower⟩ : ∃ k : Int, k = 293 ∧ k ≤ power := ⟨293, rfl, hpower⟩
  have hsplit : tenPow power = tenPow (power - k) * tenPow k := by
    have hsum : power.toNat = (power - k).toNat + k.toNat := by omega
    rw [tenPow, hsum]
    exact Nat.pow_add ..
  have hquotient : overflow / tenPow k = 1797693134862315 := by
    rw [hk]
    decide +kernel
  rw [hsplit, ← Nat.mul_assoc] at hle
  have hdigits := le_of_mul_le (Nat.pow_pos (by decide)) hquotient hle
  have hten : 0 < tenPow (power - k) := Nat.pow_pos (by decide)
  have hexact : worth a i = digits := by
    refine worth_ofNat (lt_of_le_of_lt ?_ (show 1797693134862315 < _ by decide)) hfinite
    exact (Nat.le_mul_of_pos_right digits hten).trans hdigits
  have hworth : worth a i * tenPow (power - k) ≤ (1797693134862315 : Nat) := by
    rw [hexact, ← Nat.cast_mul]
    exact Nat.cast_le.2 hdigits
  rw [hsplit, Nat.cast_mul, ← mul_assoc]
  refine ⟨1797693134862315 * tenPow k, mul_le_cast hworth _, ?_⟩
  rw [hk]
  decide +kernel

/-- **A bounded decimal keeps below the middle when its digits are rounded**, and with some space
left for the power of ten. -/
theorem exists_staysBelow (h : Bounded digits power) (hlow : 0 ≤ power)
    (hfinite : ofNat digits = .finite a i) :
    ∃ n : Nat, worth a i * tenPow power ≤ n ∧ StaysBelow n := by
  have hle := h.worth_le
  rw [decimalWorth, ← tenPow_of_nonneg hlow, ← Nat.cast_mul, Nat.cast_le] at hle
  rcases lt_trichotomy power 292 with hpower | hpower | hpower
  · exact exists_staysBelow_of_lt h hfinite hpower
  · -- Here the space is used up by the largest decimal, which is none of a magnitude.
    have hquotient : overflow / tenPow power = 17976931348623158 := by
      rw [hpower]
      decide +kernel
    have hdigits := le_of_mul_le (Nat.pow_pos (by decide)) hquotient hle
    have hne : digits ≠ 17976931348623158 := fun heq => h.ne_largest heq hpower
    have hworth := worth_le_of_ofNat (by omega) hfinite
    refine ⟨17976931348623156 * tenPow power, mul_le_cast hworth _, ?_⟩
    rw [hpower]
    decide +kernel
  · exact exists_staysBelow_of_gt hle hfinite hpower

/-- A product does not overflow if there is space left for rounding the power of ten. -/
theorem product_ne_infinite_of_staysBelow (hlow : 0 ≤ power) (hhigh : power ≤ 308)
    (hfinite : ofNat digits = .finite a i) {n : Nat} (hle : worth a i * tenPow power ≤ n)
    (hbelow : StaysBelow n) : ofNat digits * ofDecimal 1 power ≠ .infinite := by
  obtain ⟨b, j, hpower, hworth⟩ := exists_ofDecimal_one hlow hhigh
  rw [tenPow_of_nonneg hlow] at hle
  have hpos : 0 ≤ worth a i := by
    rw [worth]
    positivity
  rw [hfinite, hpower]
  refine mul_ne_infinite (lt_of_le_of_lt ?_ hbelow.lt)
  calc worth a i * worth b j
      ≤ worth a i * (10 ^ power * (1 + 1 / 2 ^ 53)) := mul_le_mul_of_nonneg_left hworth hpos
    _ = worth a i * 10 ^ power * (1 + 1 / 2 ^ 53) := (mul_assoc ..).symm
    _ ≤ n * (1 + 1 / 2 ^ 53) := mul_le_mul_of_nonneg_right hle (by norm_num)

/-- **The product does not overflow** when the digits and the power of ten are rounded before. -/
theorem product_ne_infinite (h : Bounded digits power) (hlow : 0 ≤ power) (hhigh : power ≤ 308) :
    ofNat digits * ofDecimal 1 power ≠ .infinite := by
  obtain ⟨a, i, hfinite, -⟩ := exists_ofNat (h.digits_le.trans_lt (by decide))
  obtain ⟨n, hle, hbelow⟩ := exists_staysBelow h hlow hfinite
  exact product_ne_infinite_of_staysBelow hlow hhigh hfinite hle hbelow

/-- Nor does an integer of 64 bits. -/
theorem integer_ne_infinite (h : digits < 0x10000000000000000) :
    ofNat digits * ofDecimal 1 0 ≠ .infinite := by
  obtain ⟨a, i, hfinite, hworth⟩ := exists_ofNat h
  refine product_ne_infinite_of_staysBelow (n := 0x20000000000000000) (by decide) (by decide)
    hfinite ?_ (by decide +kernel)
  have hcast : (digits : ℚ) ≤ 0x10000000000000000 := by exact_mod_cast h.le
  have hone : tenPow 0 = 1 := rfl
  rw [hone, Nat.cast_one, mul_one, Nat.cast_ofNat]
  linarith

/-- **The power of ten of a bounded decimal is a magnitude.** -/
theorem le_of_bounded (h : Bounded digits power) (hdigits : digits ≠ 0) : power ≤ 308 := by
  by_contra hpower
  have hle := h.worth_le
  rw [decimalWorth, ← tenPow_of_nonneg (by omega), ← Nat.cast_mul, Nat.cast_le] at hle
  obtain ⟨k, hk, hpower⟩ : ∃ k : Int, k = 309 ∧ k ≤ power := ⟨309, rfl, by omega⟩
  have hquotient : overflow / tenPow k = 0 := by
    rw [hk]
    decide +kernel
  have hzero := le_of_mul_le (Nat.pow_pos (by decide)) hquotient
    ((Nat.mul_le_mul_left digits (le_tenPow hpower)).trans hle)
  exact hdigits (Nat.le_zero.1 hzero)

end RegistryProxy.Magnitude
