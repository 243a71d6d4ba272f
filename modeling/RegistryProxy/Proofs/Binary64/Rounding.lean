import Mathlib.Algebra.Order.Field.Power
import Mathlib.Algebra.Order.Ring.Rat
import Mathlib.Data.Nat.Cast.Order.Field
import Mathlib.Tactic.FieldSimp
import Mathlib.Tactic.Linarith
import Mathlib.Tactic.NormNum
import Mathlib.Tactic.Positivity
import Mathlib.Tactic.Ring
import RegistryProxy.Binary64.Basic

/-!
# Proofs/Binary64/Rounding — what a rounded quotient is worth

The exponent is chosen so that the quotient has 53 bits before the point (`scaled_exponentOf`), and
the units at that exponent miss it by half a unit at most (`unitsAt_near`).  So a quotient below the
middle between the largest magnitude and the next power of two does not overflow, one that does not
overflow is not above that middle, and what is rounded grows by one part in `2 ^ 53` at most.
-/

namespace RegistryProxy.Magnitude

variable {num den a : Nat} {e i : Int} {q : ℚ}

/-- **What a finite magnitude is worth.** -/
def worth (a : Nat) (i : Int) : ℚ := a * 2 ^ i

/-- The middle between the largest finite magnitude and the next power of two. -/
def overflow : Nat := 0x3fffffffffffff * twoPow (maxExponent - 1)

theorem twoPow_cast (k : Int) : (twoPow k : ℚ) = 2 ^ k * twoPow (-k) := by
  obtain ⟨n, rfl | rfl⟩ := k.eq_nat_or_neg
  · simp [twoPow]
  · simp [twoPow]

theorem twoPow_pos (k : Int) : (0 : ℚ) < twoPow k :=
  Nat.cast_pos.2 (Nat.pow_pos (by decide))

/-! ## The nearest integer -/

/-- The nearest integer misses the quotient by one half at most. -/
theorem divEven_near (num : Nat) {den : Nat} (hden : 0 < den) :
    2 * (den * divEven num den) ≤ 2 * num + den ∧ 2 * num ≤ 2 * (den * divEven num den) + den := by
  have hdiv := Nat.div_add_mod num den
  have hmod := Nat.mod_lt num hden
  have hsucc := Nat.mul_add_one den (num / den)
  rw [divEven]
  split
  · omega
  split
  · omega
  split
  · omega
  · omega

/-! ## The exponent -/

/-- **An exponent at which a quotient has 53 bits before the point**, or the least one. -/
structure Scaled (q : ℚ) (e : Int) : Prop where
  /-- There are no more bits. -/
  lt : q < 2 ^ 53 * 2 ^ e
  /-- There are no fewer. -/
  le : e = minExponent ∨ 2 ^ 52 * 2 ^ e ≤ q

theorem log2_bounds {n : Nat} (h : 0 < n) :
    (2 : ℚ) ^ (n.log2 : Int) ≤ n ∧ (n : ℚ) < 2 ^ ((n.log2 : Int) + 1) := by
  constructor
  · rw [zpow_natCast]
    exact_mod_cast Nat.log2_self_le (Nat.pos_iff_ne_zero.1 h)
  · have hlt : (n : ℚ) < 2 ^ (n.log2 + 1) := by exact_mod_cast Nat.lt_log2_self
    exact_mod_cast hlt

/-- An exponent that is too low is raised to the least one. -/
theorem scaled_max (hlt : q < 2 ^ 53 * 2 ^ e) (hle : 2 ^ 52 * 2 ^ e ≤ q) :
    Scaled q (max minExponent e) := by
  rcases le_total minExponent e with h | h
  · rw [max_eq_right h]
    exact ⟨hlt, .inr hle⟩
  · rw [max_eq_left h]
    have hpow : (2 : ℚ) ^ e ≤ 2 ^ minExponent := zpow_le_zpow_right₀ (by norm_num) h
    exact ⟨by linarith, .inl rfl⟩

/-- The logarithms leave two exponents. -/
theorem quotient_bounds (hnum : 0 < num) (hden : 0 < den) {guess : Int}
    (hguess : (num.log2 : Int) - (den.log2 : Int) - 52 = guess) :
    (2 : ℚ) ^ 51 * 2 ^ guess < num / den ∧ (num : ℚ) / den < 2 ^ 53 * 2 ^ guess := by
  obtain ⟨hnumlow, hnumhigh⟩ := log2_bounds hnum
  obtain ⟨hdenlow, hdenhigh⟩ := log2_bounds hden
  have hpos : (0 : ℚ) < den := Nat.cast_pos.2 hden
  constructor
  · rw [lt_div_iff₀ hpos]
    calc (2 : ℚ) ^ 51 * 2 ^ guess * den
        < 2 ^ 51 * 2 ^ guess * 2 ^ ((den.log2 : Int) + 1) := by gcongr
      _ = 2 ^ (num.log2 : Int) := by
        rw [← zpow_natCast, ← zpow_add₀ two_ne_zero, ← zpow_add₀ two_ne_zero, ← hguess]
        congr 1
        push_cast
        omega
      _ ≤ num := hnumlow
  · rw [div_lt_iff₀ hpos]
    calc (num : ℚ) < 2 ^ ((num.log2 : Int) + 1) := hnumhigh
      _ = 2 ^ 53 * 2 ^ guess * 2 ^ (den.log2 : Int) := by
        rw [← zpow_natCast _ 53, ← zpow_add₀ two_ne_zero, ← zpow_add₀ two_ne_zero, ← hguess]
        congr 1
        push_cast
        omega
      _ ≤ 2 ^ 53 * 2 ^ guess * den := by gcongr

theorem scaled_exponentOf (hnum : 0 < num) (hden : 0 < den) :
    Scaled (num / den) (exponentOf num den) := by
  have hpos : (0 : ℚ) < den := Nat.cast_pos.2 hden
  rw [exponentOf]
  generalize hguess : (num.log2 : Int) - (den.log2 : Int) - 52 = guess
  obtain ⟨hlow, hhigh⟩ := quotient_bounds hnum hden hguess
  -- Which one of the two it is is decided by one comparison, without a division.
  have hfits : den * twoPow guess * 0x10000000000000 ≤ num * twoPow (-guess) ↔
      (2 : ℚ) ^ 52 * 2 ^ guess ≤ num / den := by
    have hscale : (den : ℚ) * (2 ^ guess * twoPow (-guess)) * 0x10000000000000 =
        2 ^ 52 * 2 ^ guess * den * twoPow (-guess) := by ring
    rw [le_div_iff₀ hpos, ← Nat.cast_le (α := ℚ)]
    push_cast
    rw [twoPow_cast guess, hscale, mul_le_mul_iff_left₀ (twoPow_pos _)]
  have hhalf : (2 : ℚ) ^ guess = 2 * 2 ^ (guess - 1) := by
    rw [← zpow_one_add₀ (by norm_num)]
    congr 1
    omega
  split
  next h => exact scaled_max hhigh (hfits.1 h)
  next h =>
    have hlt := not_le.1 (mt hfits.2 h)
    refine scaled_max ?_ ?_ <;> linarith

/-! ## Rounding -/

/-- **The units at an exponent miss the quotient by half a unit at most.** -/
theorem unitsAt_near (num : Nat) (hden : 0 < den) (e : Int) :
    2 * worth (unitsAt num den e) e ≤ 2 * (num / den) + 2 ^ e ∧
      2 * (num / den : ℚ) ≤ 2 * worth (unitsAt num den e) e + 2 ^ e := by
  have hpos : (0 : ℚ) < den := Nat.cast_pos.2 hden
  have hscaled : 0 < den * twoPow e := Nat.mul_pos hden (Nat.pow_pos (by decide))
  obtain ⟨hle, hge⟩ := divEven_near (num * twoPow (-e)) hscaled
  rw [← unitsAt, ← Nat.cast_le (α := ℚ)] at hle hge
  push_cast at hle hge
  rw [twoPow_cast e] at hle hge
  have ht := twoPow_pos (-e)
  have hcancel : 0 < den * (twoPow (-e) : ℚ) := mul_pos hpos ht
  have hnum : (num : ℚ) = num / den * den := (div_mul_cancel₀ _ hpos.ne').symm
  rw [worth]
  generalize (num / den : ℚ) = q at *
  rw [hnum] at hle hge
  constructor
  · refine le_of_mul_le_mul_right ?_ hcancel
    linarith
  · refine le_of_mul_le_mul_right ?_ hcancel
    linarith

/-- The units that are a power of two, at the next exponent. -/
theorem worth_carry (e : Int) : worth 0x10000000000000 (e + 1) = worth 0x20000000000000 e := by
  rw [worth, worth, zpow_add_one₀ two_ne_zero]
  push_cast
  ring

/-- The magnitude of a quotient, from its units and their exponent. -/
theorem ofRatio_eq (hnum : 0 < num) {p : Nat × Int} (hp : p =
    if unitsAt num den (exponentOf num den) = 0x20000000000000 then
      (0x10000000000000, exponentOf num den + 1)
    else (unitsAt num den (exponentOf num den), exponentOf num den)) :
    ofRatio num den = if maxExponent < p.2 then .infinite else .finite p.1 p.2 := by
  rw [ofRatio, if_neg hnum.ne']
  -- The pair is named before it is taken apart, so that nobody compares the units with a numeral.
  extract_lets exponent units
  rw [show (if units = 0x20000000000000 then (0x10000000000000, exponent + 1)
    else (units, exponent)) = p from hp.symm]

/-- **How a quotient is rounded**: to the units at the exponent, unless they are too big. -/
theorem ofRatio_cases (hnum : 0 < num) (hden : 0 < den) :
    ∃ e u, Scaled (num / den) e ∧ u = unitsAt num den e ∧
      (ofRatio num den = .infinite ∧
          (maxExponent < e ∨ e = maxExponent ∧ u = 0x20000000000000) ∨
        ∃ a i, ofRatio num den = .finite a i ∧ worth a i = worth u e ∧
          (e < maxExponent ∨ e = maxExponent ∧ u ≠ 0x20000000000000)) := by
  refine ⟨_, _, scaled_exponentOf hnum hden, rfl, ?_⟩
  by_cases hcarry : unitsAt num den (exponentOf num den) = 0x20000000000000
  · rw [ofRatio_eq hnum (if_pos hcarry).symm, hcarry]
    dsimp only
    generalize exponentOf num den = e
    split
    next h => exact .inl ⟨rfl, by omega⟩
    next h => exact .inr ⟨_, _, rfl, worth_carry e, .inl (by omega)⟩
  · rw [ofRatio_eq hnum (if_neg hcarry).symm]
    dsimp only
    generalize exponentOf num den = e at *
    split
    next h => exact .inl ⟨rfl, .inl h⟩
    next h =>
      refine .inr ⟨_, _, rfl, rfl, ?_⟩
      rcases lt_or_eq_of_le (not_lt.1 h) with hlt | heq
      · exact .inl hlt
      · exact .inr ⟨heq, hcarry⟩

theorem two_zpow_maxExponent : (2 : ℚ) ^ maxExponent = 2 * twoPow (maxExponent - 1) := by
  have hone : twoPow (-(maxExponent - 1)) = 1 := rfl
  rw [twoPow_cast, hone, Nat.cast_one, mul_one, ← zpow_one_add₀ two_ne_zero, add_sub_cancel]

/-- **What is below the middle does not overflow.** -/
theorem ofRatio_ne_infinite (hden : 0 < den) (h : (num : ℚ) / den < overflow) :
    ofRatio num den ≠ .infinite := by
  rcases Nat.eq_zero_or_pos num with rfl | hnum
  · nofun
  intro hinfinite
  obtain ⟨e, u, hscaled, rfl, ⟨-, hbig⟩ | ⟨a, i, hfinite, -⟩⟩ := ofRatio_cases hnum hden
  · have hnear := (unitsAt_near num hden e).1
    generalize (num / den : ℚ) = q at *
    generalize unitsAt num den e = u at *
    have hpos := twoPow_pos (maxExponent - 1)
    rw [overflow, Nat.cast_mul, Nat.cast_ofNat] at h
    rcases hbig with hbig | ⟨rfl, rfl⟩
    · have hleast : e ≠ minExponent := fun heq => absurd (heq ▸ hbig) (by decide)
      have hpow : (2 : ℚ) ^ (maxExponent + 1) ≤ 2 ^ e := zpow_le_zpow_right₀ (by norm_num) hbig
      have hle := hscaled.le.resolve_left hleast
      rw [zpow_add_one₀ two_ne_zero, two_zpow_maxExponent] at hpow
      generalize (twoPow (maxExponent - 1) : ℚ) = x at *
      linarith
    · rw [worth, two_zpow_maxExponent] at hnear
      generalize (twoPow (maxExponent - 1) : ℚ) = x at *
      push_cast at hnear
      linarith
  · rw [hinfinite] at hfinite
    cases hfinite

/-- **What does not overflow is not above the middle.** -/
theorem le_overflow_of_ofRatio (hden : 0 < den) (h : ofRatio num den = .finite a i) :
    (num : ℚ) / den ≤ overflow := by
  rcases Nat.eq_zero_or_pos num with rfl | hnum
  · rw [Nat.cast_zero, zero_div]
    exact Nat.cast_nonneg _
  obtain ⟨e, u, hscaled, rfl, ⟨hinfinite, -⟩ | ⟨-, -, -, -, hsmall⟩⟩ := ofRatio_cases hnum hden
  · rw [hinfinite] at h
    cases h
  obtain ⟨hle, hge⟩ := unitsAt_near num hden e
  have hlt := hscaled.lt
  generalize (num / den : ℚ) = q at *
  generalize unitsAt num den e = u at *
  have hpos := twoPow_pos (maxExponent - 1)
  rw [overflow, Nat.cast_mul, Nat.cast_ofNat]
  rcases hsmall with hsmall | ⟨rfl, hcarry⟩
  · have hpow : (2 : ℚ) ^ (e + 1) ≤ 2 ^ maxExponent := zpow_le_zpow_right₀ (by norm_num) hsmall
    rw [zpow_add_one₀ two_ne_zero, two_zpow_maxExponent] at hpow
    generalize (twoPow (maxExponent - 1) : ℚ) = x at *
    linarith
  · rw [worth, two_zpow_maxExponent] at hle hge
    rw [two_zpow_maxExponent] at hlt
    generalize (twoPow (maxExponent - 1) : ℚ) = x at *
    have hunits : u ≤ 0x20000000000000 := by
      have hcast : (u : ℚ) < 0x20000000000000 + 1 := by
        refine lt_of_mul_lt_mul_right ?_ hpos.le
        linarith
      exact Nat.le_of_lt_succ (by exact_mod_cast hcast)
    have hcast : (u : ℚ) ≤ 0x1fffffffffffff := by
      exact_mod_cast Nat.le_sub_one_of_lt (lt_of_le_of_ne hunits hcarry)
    have hworth := mul_le_mul_of_nonneg_right hcast hpos.le
    linarith

/-- **A quotient grows by one part in `2 ^ 53` at most** when it is rounded. -/
theorem worth_le_of_ofRatio (hden : 0 < den) (hone : 1 ≤ (num : ℚ) / den)
    (h : ofRatio num den = .finite a i) : worth a i ≤ num / den * (1 + 1 / 2 ^ 53) := by
  have hnum : 0 < num := by
    refine Nat.pos_of_ne_zero ?_
    rintro rfl
    norm_num at hone
  obtain ⟨e, u, hscaled, rfl, ⟨hinfinite, -⟩ | ⟨a', i', hfinite, hworth, -⟩⟩ :=
    ofRatio_cases hnum hden
  · rw [hinfinite] at h
    cases h
  rw [hfinite] at h
  cases h
  have hnear := (unitsAt_near num hden e).1
  have hle : (2 : ℚ) ^ 52 * 2 ^ e ≤ num / den := by
    rcases hscaled.le with rfl | hle
    · have hleast : (2 : ℚ) ^ 52 * 2 ^ minExponent ≤ 1 := by
        rw [← zpow_natCast, ← zpow_add₀ two_ne_zero]
        exact zpow_le_one_of_nonpos₀ (by norm_num) (by decide)
      exact hleast.trans hone
    · exact hle
  rw [hworth]
  linarith

/-- **An integer of 53 bits is not rounded.** -/
theorem worth_ofNat {n : Nat} (hn : n < 0x20000000000000) (h : ofNat n = .finite a i) :
    worth a i = n := by
  rcases Nat.eq_zero_or_pos n with rfl | hpos
  · cases h
    norm_num [worth]
  obtain ⟨e, u, hscaled, rfl, ⟨hinfinite, -⟩ | ⟨a', i', hfinite, hworth, -⟩⟩ :=
    ofRatio_cases hpos Nat.one_pos
  · rw [ofNat, hinfinite] at h
    cases h
  rw [ofNat, hfinite] at h
  cases h
  have he : e ≤ 0 := by
    rcases hscaled.le with rfl | hle
    · decide
    · have hcast : (n : ℚ) < 0x20000000000000 := by exact_mod_cast hn
      by_contra hpos
      have hpow : (2 : ℚ) ^ (1 : Int) ≤ 2 ^ e := zpow_le_zpow_right₀ (by norm_num) (by omega)
      norm_num at hpow hle
      linarith
  have hone : twoPow e = 1 := by
    rw [twoPow, Int.toNat_of_nonpos he]
  have hunits : unitsAt n 1 e = n * twoPow (-e) := by
    rw [unitsAt, hone, divEven]
    simp [Nat.mod_one]
  have hcast := twoPow_cast e
  rw [hone, Nat.cast_one] at hcast
  rw [hworth, worth, hunits, Nat.cast_mul, mul_assoc, mul_comm (twoPow (-e) : ℚ), ← hcast, mul_one]

/-! ## Sums and products -/

theorem ratio_worth (a : Nat) (i : Int) : ((ratio a i).1 : ℚ) / (ratio a i).2 = worth a i := by
  have hpos := twoPow_pos (-i)
  rw [div_eq_iff (by exact hpos.ne'), ratio, worth]
  push_cast
  rw [twoPow_cast i, mul_assoc]

theorem ratio_den_pos (a : Nat) (i : Int) : 0 < (ratio a i).2 := Nat.pow_pos (by decide)

/-- The quotient that a sum rounds. -/
theorem sum_worth (a b : Nat) (i j : Int) :
    (((ratio a i).1 * (ratio b j).2 + (ratio b j).1 * (ratio a i).2 : Nat) : ℚ) /
      ((ratio a i).2 * (ratio b j).2 : Nat) = worth a i + worth b j := by
  have hi : ((ratio a i).2 : ℚ) ≠ 0 := Nat.cast_ne_zero.2 (ratio_den_pos a i).ne'
  have hj : ((ratio b j).2 : ℚ) ≠ 0 := Nat.cast_ne_zero.2 (ratio_den_pos b j).ne'
  rw [← ratio_worth, ← ratio_worth, Nat.cast_add, Nat.cast_mul, Nat.cast_mul, Nat.cast_mul,
    div_add_div _ _ hi hj, mul_comm ((ratio b j).1 : ℚ)]

/-- The quotient that a product rounds. -/
theorem product_worth (a b : Nat) (i j : Int) :
    (((ratio a i).1 * (ratio b j).1 : Nat) : ℚ) / ((ratio a i).2 * (ratio b j).2 : Nat) =
      worth a i * worth b j := by
  rw [Nat.cast_mul, Nat.cast_mul, mul_div_mul_comm, ratio_worth, ratio_worth]

/-- **A product below the middle does not overflow.** -/
theorem mul_ne_infinite {b : Nat} {j : Int} (h : worth a i * worth b j < overflow) :
    Magnitude.finite a i * .finite b j ≠ .infinite := by
  have hden : 0 < (ratio a i).2 * (ratio b j).2 :=
    Nat.mul_pos (ratio_den_pos a i) (ratio_den_pos b j)
  exact ofRatio_ne_infinite hden ((product_worth a b i j).trans_lt h)

end RegistryProxy.Magnitude
