import RegistryProxy.Proofs.Binary64.Shortest

/-!
# Proofs/Binary64/Accuracy — how far a chain of roundings strays

One rounding moves a value by one part in `2 ^ 53` or by half of the least magnitude at most, up or
down.  `Near` says that a magnitude is so many roundings away from an exact value.  Sums, products
with whole numbers and decimals keep it, and overflow is no exception: what overflows is near a
value that is too big.
-/

namespace RegistryProxy.Magnitude

variable {num den k l a : Nat} {i power : Int} {d e q w x y : ℚ} {m m' : Magnitude}

/-! ## One side -/

/-- By what a rounding multiplies at most. -/
def slack : ℚ := 1 + 1 / 2 ^ 52

/-- What a rounding adds at most to the smallest values: half of the least magnitude. -/
def dust : ℚ := 2 ^ (minExponent - 1)

theorem one_le_slack_pow (k : Nat) : 1 ≤ slack ^ k := one_le_pow₀ (by norm_num [slack])

theorem dust_pos : 0 < dust := zpow_pos (by norm_num) _

/-- **A value is not more than `k` roundings above another one**; `d` is what was added. -/
def Within (k : Nat) (d w x : ℚ) : Prop := w ≤ slack ^ k * (x + d)

namespace Within

theorem mono (h : Within k d w x) (hkl : k ≤ l) (hpos : 0 ≤ x + d) (hle : x + d ≤ y + e) :
    Within l e w y := by
  have hpow : slack ^ k ≤ slack ^ l := pow_le_pow_right₀ (by norm_num [slack]) hkl
  calc w ≤ slack ^ k * (x + d) := h
    _ ≤ slack ^ l * (x + d) := mul_le_mul_of_nonneg_right hpow hpos
    _ ≤ slack ^ l * (y + e) :=
      mul_le_mul_of_nonneg_left hle (zero_le_one.trans (one_le_slack_pow l))

theorem trans (h : Within l e w q) (h' : Within k d q x) (he : 0 ≤ e) :
    Within (k + l) (d + e) w x := by
  have hk := one_le_slack_pow k
  have hl := zero_le_one.trans (one_le_slack_pow l)
  have hinner : q + e ≤ slack ^ k * (x + (d + e)) := by
    have hkept := mul_le_mul_of_nonneg_right hk he
    rw [Within] at h'
    linarith
  calc w ≤ slack ^ l * (q + e) := h
    _ ≤ slack ^ l * (slack ^ k * (x + (d + e))) := mul_le_mul_of_nonneg_left hinner hl
    _ = slack ^ (k + l) * (x + (d + e)) := by rw [pow_add]; ring

theorem add {v : ℚ} (h : Within k d w x) (h' : Within k e v y) :
    Within k (d + e) (w + v) (x + y) := by
  rw [Within] at *
  linarith

theorem mul (h : Within k d w x) {u : ℚ} (hu : 0 ≤ u) : Within k (d * u) (w * u) (x * u) := by
  have hmul := mul_le_mul_of_nonneg_right h hu
  rw [Within]
  linarith

end Within

/-! ## Both sides -/

/-- **A magnitude is `k` roundings away from an exact value**, at most. -/
def Near (k : Nat) (d : ℚ) (m : Magnitude) (x : ℚ) : Prop :=
  match m with
  | .finite a i => Within k d (worth a i) x ∧ Within k d x (worth a i)
  | .infinite => Within k d overflow x

theorem worth_nonneg (a : Nat) (i : Int) : 0 ≤ worth a i :=
  mul_nonneg (Nat.cast_nonneg a) (zpow_nonneg (by norm_num) i)

theorem near_zero (k : Nat) (hd : 0 ≤ d) : Near k d zero 0 := by
  have hworth : worth 0 minExponent = 0 := by rw [worth, Nat.cast_zero, zero_mul]
  have hzero : Within k d 0 0 := by
    rw [Within, zero_add]
    exact mul_nonneg (zero_le_one.trans (one_le_slack_pow k)) hd
  rw [zero, Near, hworth]
  exact ⟨hzero, hzero⟩

theorem Near.mono (h : Near k d m x) (hkl : k ≤ l) (hd : 0 ≤ d) (hde : d ≤ e) (hx : 0 ≤ x) :
    Near l e m x := by
  cases m with
  | finite a i =>
    have hworth := worth_nonneg a i
    exact ⟨h.1.mono hkl (by linarith) (by linarith), h.2.mono hkl (by linarith) (by linarith)⟩
  | infinite => exact Within.mono h hkl (by linarith) (by linarith)

/-! ## Roundings -/

/-- **One rounding.** -/
theorem near_ofRatio (num : Nat) (hden : 0 < den) : Near 1 dust (ofRatio num den) (num / den) := by
  rcases Nat.eq_zero_or_pos num with rfl | hnum
  · rw [ofRatio, if_pos rfl, Nat.cast_zero, zero_div]
    exact near_zero 1 dust_pos.le
  cases hm : ofRatio num den with
  | infinite =>
    have hover : (overflow : ℚ) ≤ num / den := by
      by_contra hlt
      exact ofRatio_ne_infinite hden (not_le.1 hlt) hm
    have hpos : (0 : ℚ) ≤ num / den := (Nat.cast_nonneg _).trans hover
    rw [Near, Within, pow_one, slack]
    have hdust := dust_pos
    linarith
  | finite a i =>
    obtain ⟨f, u, hscaled, rfl, ⟨hinfinite, -⟩ | ⟨a', i', hfinite, hworth, -⟩⟩ :=
      ofRatio_cases hnum hden
    · cases hm.symm.trans hinfinite
    cases hm.symm.trans hfinite
    obtain ⟨hle, hge⟩ := unitsAt_near num hden f
    have hq : (0 : ℚ) ≤ num / den := div_nonneg (Nat.cast_nonneg _) (Nat.cast_nonneg _)
    -- One unit is a part in `2 ^ 52` of the quotient, or the least magnitude.
    have hunit : (2 : ℚ) ^ f ≤ 1 / 2 ^ 52 * (num / den) + 2 * dust := by
      have hdust : 2 * dust = 2 ^ minExponent := by
        rw [dust, ← zpow_one_add₀ two_ne_zero, add_sub_cancel]
      rw [hdust]
      rcases hscaled.le with rfl | hle
      · linarith
      · have hleast : (0 : ℚ) < 2 ^ minExponent := zpow_pos (by norm_num) _
        linarith
    have hw := worth_nonneg a i
    rw [← hworth] at hle hge
    have hdust := dust_pos
    rw [Near, Within, Within, pow_one, slack]
    generalize (num / den : ℚ) = q at *
    generalize worth a i = w at *
    constructor <;> linarith

/-- **A rounding of what is near.** -/
theorem near_round (hden : 0 < den) (hq : (num : ℚ) / den = q) (h : Within k d q x)
    (h' : Within k d x q) (hd : 0 ≤ d) : Near (k + 1) (d + dust) (ofRatio num den) x := by
  have hround := near_ofRatio num hden
  rw [hq] at hround
  cases hm : ofRatio num den with
  | infinite =>
    rw [hm] at hround
    exact hround.trans h dust_pos.le
  | finite a i =>
    rw [hm] at hround
    refine ⟨hround.1.trans h dust_pos.le, ?_⟩
    have hback := h'.trans hround.2 hd
    rwa [add_comm 1 k, add_comm dust d] at hback

/-- **The rounded sum.** -/
theorem Near.add (h : Near k d m x) (h' : Near k e m' y) (hd : 0 ≤ d) (he : 0 ≤ e) (hx : 0 ≤ x)
    (hy : 0 ≤ y) : Near (k + 1) (d + e + dust) (m + m') (x + y) := by
  have hdust := dust_pos
  cases m with
  | infinite => exact Within.mono h (Nat.le_succ k) (by linarith) (by linarith)
  | finite a i =>
    cases m' with
    | infinite => exact Within.mono h' (Nat.le_succ k) (by linarith) (by linarith)
    | finite b j =>
      exact near_round (Nat.mul_pos (ratio_den_pos a i) (ratio_den_pos b j)) (sum_worth a b i j)
        (h.1.add h'.1) (h.2.add h'.2) (add_nonneg hd he)

/-- **The rounded product with a whole number.** -/
theorem Near.mul (h : Near k d m x) {n : Nat} (hone : 1 ≤ n) (hn : n < 0x20000000000000)
    (hd : 0 ≤ d) (hx : 0 ≤ x) : Near (k + 1) (d * n + dust) (m * ofNat n) (x * n) := by
  have hdust := dust_pos
  have hcast : (1 : ℚ) ≤ n := by exact_mod_cast hone
  obtain ⟨b, j, hfinite, -⟩ := exists_ofNat (n := n) (by omega)
  have hworth := worth_ofNat hn hfinite
  rw [hfinite]
  cases m with
  | infinite =>
    have hgrown := le_mul_of_one_le_right (add_nonneg hx hd) hcast
    exact Within.mono h (Nat.le_succ k) (by linarith) (by linarith)
  | finite a i =>
    have hproduct := product_worth a b i j
    rw [hworth] at hproduct
    exact near_round (Nat.mul_pos (ratio_den_pos a i) (ratio_den_pos b j)) hproduct
      (h.1.mul (Nat.cast_nonneg n)) (h.2.mul (Nat.cast_nonneg n))
      (mul_nonneg hd (Nat.cast_nonneg n))

theorem decimalWorth_nonneg (digits : Nat) (power : Int) : 0 ≤ decimalWorth digits power :=
  mul_nonneg (Nat.cast_nonneg digits) (zpow_nonneg (by norm_num) power)

/-- The places before the point bound a decimal. -/
theorem decimalWorth_bounds (power : Int) (hdigits : 0 < digits) :
    (10 : ℚ) ^ (((Decimal.digitsText digits).length : Int) + power - 1) ≤
        decimalWorth digits power ∧
      decimalWorth digits power < 10 ^ (((Decimal.digitsText digits).length : Int) + power) := by
  obtain ⟨hle, hlt⟩ := length_bounds hdigits
  have hpow : (0 : ℚ) < 10 ^ power := zpow_pos (by norm_num) _
  rw [decimalWorth]
  constructor
  · rw [add_sub_right_comm, zpow_add₀ (by norm_num)]
    exact mul_le_mul_of_nonneg_right hle hpow.le
  · rw [zpow_add₀ (by norm_num)]
    exact mul_lt_mul_of_pos_right hlt hpow

/-- **The rounded decimal**: also one that is told by its places alone. -/
theorem near_ofDecimal (digits : Nat) (power : Int) :
    Near 1 dust (ofDecimal digits power) (decimalWorth digits power) := by
  rw [ofDecimal]
  split
  next hzero =>
    rw [hzero, decimalWorth, Nat.cast_zero, zero_mul]
    exact near_zero 1 dust_pos.le
  next hdigits =>
  obtain ⟨hle, hlt⟩ := decimalWorth_bounds power (Nat.pos_of_ne_zero hdigits)
  have hdust := dust_pos
  have hworth := decimalWorth_nonneg digits power
  split
  next hbig =>
    have hpow : (10 : ℚ) ^ (400 : Int) ≤
        10 ^ (((Decimal.digitsText digits).length : Int) + power - 1) :=
      zpow_le_zpow_right₀ (by norm_num) (by omega)
    have hover : (overflow : ℚ) ≤ 10 ^ (400 : Int) := by
      rw [← tenPow_of_nonneg (k := 400) (by decide)]
      exact Nat.cast_le.2 (by decide +kernel)
    have hover := hover.trans (hpow.trans hle)
    clear hpow hle hlt
    rw [Near, Within, pow_one, slack]
    linarith
  split
  next hsmall =>
    have hpow : (10 : ℚ) ^ (((Decimal.digitsText digits).length : Int) + power) ≤
        10 ^ (-400 : Int) :=
      zpow_le_zpow_right₀ (by norm_num) hsmall.le
    have hleast : (10 : ℚ) ^ (-400 : Int) ≤ dust := by
      have htwo : ((2 ^ 1075 : Nat) : ℚ) ≤ (10 ^ 400 : Nat) := Nat.cast_le.2 (by decide +kernel)
      rw [dust, show minExponent - 1 = -((1075 : Nat) : Int) from rfl,
        show (-400 : Int) = -((400 : Nat) : Int) from rfl, zpow_neg, zpow_neg, zpow_natCast,
        zpow_natCast]
      exact inv_anti₀ (by positivity) (by exact_mod_cast htwo)
    have hzero : worth 0 minExponent = 0 := by rw [worth, Nat.cast_zero, zero_mul]
    have hless := hlt.trans_le (hpow.trans hleast)
    clear hpow hleast hle hlt
    rw [zero, Near, Within, Within, pow_one, slack, hzero]
    constructor <;> linarith
  next =>
    have hden : 0 < tenPow (-power) := Nat.pow_pos (by decide)
    have hround := near_ofRatio (digits * tenPow power) hden
    rwa [decimalWorth_eq] at hround

/-- **The nearest natural number is below a bound** if half a unit more is. -/
theorem exists_roundHalfUp_lt_iff {bound : Nat} :
    (∃ n ∈ (finite a i).roundHalfUp, n < bound) ↔ worth a i + 1 / 2 < bound := by
  have hden : (0 : ℚ) < (ratio a i).2 := Nat.cast_pos.2 (ratio_den_pos a i)
  have hlt : (2 * (ratio a i).1 + (ratio a i).2) / (2 * (ratio a i).2) < bound ↔
      2 * (ratio a i).1 + (ratio a i).2 < bound * (2 * (ratio a i).2) :=
    Nat.div_lt_iff_lt_mul (Nat.mul_pos Nat.two_pos (ratio_den_pos a i))
  rw [← ratio_worth, div_add' _ _ _ hden.ne', div_lt_iff₀ hden]
  simp only [roundHalfUp, Option.mem_def, Option.some.injEq, exists_eq_left']
  rw [hlt, ← Nat.cast_lt (α := ℚ)]
  push_cast
  constructor <;> intro h <;> linarith

end RegistryProxy.Magnitude
