import RegistryProxy.Proofs.Binary64.Accuracy

/-!
# Proofs/Binary64/Whole — which whole numbers a double holds

A whole number is a magnitude if and only if it has 53 bits at most in front of its zeros (`Short`).
Rounding leaves it as it is then, and moves it otherwise, to another whole number that is less than
one part in `2 ^ 53` away (`rounded_ofRatio`).  So whole numbers below `2 ^ 53` are added and
multiplied without a loss.
-/

namespace RegistryProxy.Magnitude

variable {num den n n' k u : Nat} {e : Int} {m m' : Magnitude}

/-! ## Short numbers -/

/-- **A whole number of 53 bits at most**, with zeros behind them. -/
def Short (n : Nat) : Prop := ∃ a k, n = a * 2 ^ k ∧ a < 2 ^ 53

theorem short_of_lt (h : n < 2 ^ 53) : Short n := ⟨n, 0, by rw [pow_zero, mul_one], h⟩

/-- What stands behind the 53rd bit tells whether a number is short. -/
theorem short_iff_dvd (hlow : 2 ^ 52 * 2 ^ k ≤ n) (hhigh : n < 2 ^ 53 * 2 ^ k) :
    Short n ↔ 2 ^ k ∣ n := by
  constructor
  · rintro ⟨a, l, rfl, ha⟩
    refine (pow_dvd_pow 2 (Nat.not_lt.1 fun hlt => ?_)).trans (Nat.dvd_mul_left _ _)
    -- With fewer zeros the number would have to have more bits in front of them.
    have hdouble : 2 ^ l * 2 ≤ 2 ^ k := Nat.pow_le_pow_right Nat.two_pos hlt
    have hless : a * 2 ^ l < 2 ^ 53 * 2 ^ l := Nat.mul_lt_mul_of_pos_right ha (Nat.two_pow_pos l)
    omega
  · rintro ⟨a, rfl⟩
    rw [Nat.mul_comm (2 ^ k)] at hhigh ⊢
    exact ⟨a, k, rfl, Nat.lt_of_mul_lt_mul_right hhigh⟩

/-! ## Magnitudes of whole numbers -/

/-- **A magnitude that is worth a whole number.** -/
def Holds (m : Magnitude) (n : Nat) : Prop := ∃ a i, m = .finite a i ∧ worth a i = n

theorem holds_zero : Holds zero 0 := ⟨0, minExponent, rfl, by rw [worth, Nat.cast_zero, zero_mul]⟩

/-- The whole number is the nearest one. -/
theorem Holds.roundHalfUp (h : Holds m n) : m.roundHalfUp = some n := by
  obtain ⟨a, i, rfl, hworth⟩ := h
  have hbelow : worth a i + 1 / 2 < (n + 1 : Nat) := by
    rw [hworth, Nat.cast_add_one]
    linarith
  obtain ⟨n', hn', hlt⟩ := exists_roundHalfUp_lt_iff.2 hbelow
  have hle : ¬ n' < n := fun hless => by
    have habove := exists_roundHalfUp_lt_iff.1 ⟨n', hn', hless⟩
    rw [hworth] at habove
    linarith
  rw [Option.mem_def.1 hn', Nat.le_antisymm (Nat.le_of_lt_succ hlt) (Nat.not_lt.1 hle)]

/-! ## Rounding a whole number -/

/-- A whole number of units is not rounded. -/
theorem unitsAt_of_worth (hden : 0 < den) (h : (num / den : ℚ) = worth u e) :
    unitsAt num den e = u := by
  obtain ⟨hle, hge⟩ := unitsAt_near num hden e
  have hunit : (0 : ℚ) < 2 ^ e := zpow_pos (by norm_num) e
  rw [h, worth, worth] at hle hge
  refine Nat.le_antisymm (Nat.le_of_lt_succ ?_) (Nat.le_of_lt_succ ?_)
  · have hless : (unitsAt num den e : ℚ) < (u + 1 : Nat) := by
      refine lt_of_mul_lt_mul_right ?_ hunit.le
      push_cast
      linarith
    exact_mod_cast hless
  · have hless : (u : ℚ) < (unitsAt num den e + 1 : Nat) := by
      refine lt_of_mul_lt_mul_right ?_ hunit.le
      push_cast
      linarith
    exact_mod_cast hless

/-- **What becomes of a whole number when it is rounded**: it stays if it is short, and only then,
and it moves by one part in `2 ^ 53` at most. -/
def Rounded (n : Nat) (m : Magnitude) : Prop :=
  ∃ w, Holds m w ∧ (w = n ↔ Short n) ∧ |(w : ℤ) - n| * 2 ^ 53 ≤ n

theorem rounded_of_holds (h : Holds m n) (hshort : Short n) : Rounded n m :=
  ⟨n, h, iff_of_true rfl hshort, by simp⟩

/-- Where there is no bit behind the point, nothing is lost. -/
theorem worth_unitsAt_of_nonpos (hden : 0 < den) (hn : (num / den : ℚ) = n) (k : Nat) :
    worth (unitsAt num den (-k)) (-k) = n := by
  have hworth : worth (n * 2 ^ k) (-k) = n := by
    rw [worth, zpow_neg, zpow_natCast]
    push_cast
    field_simp
  rw [unitsAt_of_worth hden (hn.trans hworth.symm), hworth]

theorem worth_natCast (u k : Nat) : worth u k = (u * 2 ^ k : Nat) := by
  rw [worth, zpow_natCast]
  push_cast
  rfl

/-- **Rounding to `2 ^ k`.** -/
theorem rounded_unitsAt (hden : 0 < den) (hn : (num / den : ℚ) = n) (hlow : 2 ^ 52 * 2 ^ k ≤ n)
    (hhigh : n < 2 ^ 53 * 2 ^ k) :
    (unitsAt num den k * 2 ^ k = n ↔ Short n) ∧
      |((unitsAt num den k * 2 ^ k : Nat) : ℤ) - n| * 2 ^ 53 ≤ n := by
  constructor
  · rw [short_iff_dvd hlow hhigh]
    refine ⟨fun h => h ▸ Nat.dvd_mul_left _ _, ?_⟩
    rintro ⟨u, rfl⟩
    rw [Nat.mul_comm (2 ^ k)] at hn ⊢
    rw [unitsAt_of_worth hden (hn.trans (worth_natCast u k).symm)]
  · obtain ⟨hle, hge⟩ := unitsAt_near num hden k
    rw [hn, worth_natCast, zpow_natCast] at hle hge
    have hle : 2 * (unitsAt num den k * 2 ^ k) ≤ 2 * n + 2 ^ k := by exact_mod_cast hle
    have hge : 2 * n ≤ 2 * (unitsAt num den k * 2 ^ k) + 2 ^ k := by exact_mod_cast hge
    generalize unitsAt num den k * 2 ^ k = w at *
    rcases abs_cases ((w : ℤ) - n) with ⟨habs, -⟩ | ⟨habs, -⟩
    · omega
    · omega

/-- **A whole number is rounded** to a whole number. -/
theorem rounded_ofRatio (hden : 0 < den) (hn : (num / den : ℚ) = n) (hlt : n < overflow) :
    Rounded n (ofRatio num den) := by
  rcases Nat.eq_zero_or_pos num with rfl | hnum
  · rw [Nat.cast_zero, zero_div, eq_comm, Nat.cast_eq_zero] at hn
    rw [hn]
    exact rounded_of_holds holds_zero (short_of_lt (by decide))
  obtain ⟨e, u, hscaled, rfl, ⟨hinfinite, -⟩ | ⟨a, i, hfinite, hworth, -⟩⟩ :=
    ofRatio_cases hnum hden
  · refine absurd hinfinite (ofRatio_ne_infinite hden ?_)
    rw [hn]
    exact Nat.cast_lt.2 hlt
  rw [hn] at hscaled
  obtain ⟨k, rfl | rfl⟩ := e.eq_nat_or_neg
  · have hhigh : n < 2 ^ 53 * 2 ^ k := by exact_mod_cast hscaled.lt
    have hlow : 2 ^ 52 * 2 ^ k ≤ n := by
      rcases hscaled.le with hleast | hle
      · rw [minExponent] at hleast
        omega
      · exact_mod_cast hle
    obtain ⟨hiff, hnear⟩ := rounded_unitsAt hden hn hlow hhigh
    exact ⟨_, ⟨a, i, hfinite, hworth.trans (worth_natCast _ k)⟩, hiff, hnear⟩
  · rw [worth_unitsAt_of_nonpos hden hn] at hworth
    refine rounded_of_holds ⟨a, i, hfinite, hworth⟩ (short_of_lt ?_)
    have hone : (2 : ℚ) ^ (-k : Int) ≤ 1 := zpow_le_one_of_nonpos₀ (by norm_num) (by omega)
    have hbound : (n : ℚ) < 2 ^ 53 :=
      hscaled.lt.trans_le (mul_le_of_le_one_right (by norm_num) hone)
    exact_mod_cast hbound

theorem Rounded.holds (h : Rounded n m) (hshort : Short n) : Holds m n := by
  obtain ⟨w, hw, hiff, -⟩ := h
  exact hiff.2 hshort ▸ hw

/-! ## Arithmetic -/

theorem lt_overflow (h : n < 2 ^ 65) : n < overflow := h.trans (by decide +kernel)

theorem holds_ofRatio (hden : 0 < den) (hn : (num / den : ℚ) = n) (hlt : n < 2 ^ 53) :
    Holds (ofRatio num den) n :=
  (rounded_ofRatio hden hn (lt_overflow (by omega))).holds (short_of_lt hlt)

theorem holds_ofNat (hlt : n < 2 ^ 53) : Holds (ofNat n) n :=
  holds_ofRatio Nat.one_pos (by rw [Nat.cast_one, div_one]) hlt

/-- **A decimal that is worth a whole number**, with zeros behind its point. -/
theorem holds_ofDecimal (hlt : n < 2 ^ 53) (places : Nat) :
    Holds (ofDecimal (n * 10 ^ places) (-(places : Int))) n := by
  rcases Nat.eq_zero_or_pos n with rfl | hpos
  · rw [Nat.zero_mul]
    exact holds_zero
  have hworth : decimalWorth (n * 10 ^ places) (-(places : Int)) = n := by
    rw [decimalWorth, zpow_neg, zpow_natCast]
    push_cast
    field_simp
  have hdigits : 0 < n * 10 ^ places := Nat.mul_pos hpos (Nat.pow_pos (by decide))
  obtain ⟨hlow, hhigh⟩ := decimalWorth_bounds (-(places : Int)) hdigits
  rw [hworth] at hlow hhigh
  -- The places before the point are those of a number of 53 bits.
  have hone : (10 : ℚ) ^ (0 : Int) ≤ n := by exact_mod_cast hpos
  have hbound : (n : ℚ) < 10 ^ (16 : Int) := by
    exact_mod_cast hlt.trans (by decide)
  have hfew := (zpow_lt_zpow_iff_right₀ (by norm_num)).1 (hlow.trans_lt hbound)
  have hsome := (zpow_lt_zpow_iff_right₀ (by norm_num)).1 (hone.trans_lt hhigh)
  rw [ofDecimal, if_neg hdigits.ne', if_neg (by omega), if_neg (by omega)]
  exact holds_ofRatio (Nat.pow_pos (by decide)) ((decimalWorth_eq _ _).trans hworth) hlt

/-- **The sum of whole numbers.** -/
theorem Holds.add (h : Holds m n) (h' : Holds m' n') (hlt : n + n' < 2 ^ 53) :
    Holds (m + m') (n + n') := by
  obtain ⟨a, i, rfl, hi⟩ := h
  obtain ⟨b, j, rfl, hj⟩ := h'
  refine holds_ofRatio (Nat.mul_pos (ratio_den_pos a i) (ratio_den_pos b j))
    ((sum_worth a b i j).trans ?_) hlt
  rw [hi, hj, Nat.cast_add]

/-- **The product of whole numbers**, also where it is rounded. -/
theorem Holds.rounded_mul (h : Holds m n) (h' : Holds m' n') (hlt : n * n' < 2 ^ 65) :
    Rounded (n * n') (m * m') := by
  obtain ⟨a, i, rfl, hi⟩ := h
  obtain ⟨b, j, rfl, hj⟩ := h'
  refine rounded_ofRatio (Nat.mul_pos (ratio_den_pos a i) (ratio_den_pos b j))
    ((product_worth a b i j).trans ?_) (lt_overflow hlt)
  rw [hi, hj, Nat.cast_mul]

theorem Holds.mul (h : Holds m n) (h' : Holds m' n') (hlt : n * n' < 2 ^ 53) :
    Holds (m * m') (n * n') :=
  (h.rounded_mul h' (hlt.trans (by decide))).holds (short_of_lt hlt)

end RegistryProxy.Magnitude
