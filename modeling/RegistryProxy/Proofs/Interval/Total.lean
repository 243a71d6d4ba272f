import RegistryProxy.Proofs.Binary64.Accuracy
import RegistryProxy.Proofs.Interval.Grammar

/-!
# Proofs/Interval/Total — the total of an interval

The parts are counted in doubles, and each of them is rounded three times: its number, its product
with the unit and its sum with the parts before it.  Units that decrease are eight at most, so
eleven roundings lead from the exact total to the nanoseconds (`near_counted`), and these are less
than `2 ^ 16` away from it wherever it matters.
-/

namespace RegistryProxy.Interval

variable {a : Amount} {amounts : List Amount} {sum : Magnitude} {k : Nat} {d x : ℚ}

/-! ## The order of the parts -/

/-- The units strictly decrease from left to right. -/
def Decreasing (amounts : List Amount) : Prop :=
  amounts.Pairwise fun a b => b.milliseconds < a.milliseconds

theorem milliseconds_mem (hsound : a.Sound) : a.milliseconds ∈ units.map Prod.snd := by
  have hnames : ∀ s ∈ Amount.unitNames, (units.lookup s).getD 0 ∈ units.map Prod.snd := by decide
  rw [Amount.milliseconds]
  split
  next => decide
  next hsuffix =>
    exact hnames _ (hsound.unit.resolve_left fun hnone => hsuffix (List.isEmpty_iff.2 hnone))

theorem milliseconds_bounds (hsound : a.Sound) :
    1 ≤ a.milliseconds ∧ a.milliseconds < 0x1000000000 := by
  have hunits : ∀ n ∈ units.map Prod.snd, 1 ≤ n ∧ n < 0x1000000000 := by decide
  exact hunits _ (milliseconds_mem hsound)

/-- There are eight units. -/
theorem length_le_eight (hsound : ∀ a ∈ amounts, a.Sound) (h : Decreasing amounts) :
    amounts.length ≤ 8 := by
  have hnodup : (amounts.map Amount.milliseconds).Nodup := by
    refine List.Pairwise.map _ (fun a b hless => ?_) h
    exact hless.ne'
  have hsubset : amounts.map Amount.milliseconds ⊆ units.map Prod.snd := by
    intro n hn
    obtain ⟨a, ha, rfl⟩ := List.mem_map.1 hn
    exact milliseconds_mem (hsound a ha)
  have hle := (hnodup.subperm hsubset).length_le
  rwa [List.length_map] at hle

/-! ## The total -/

/-- The milliseconds of the parts on top of others, added up from the left. -/
def counted (sum : Magnitude) (amounts : List Amount) : Magnitude :=
  amounts.foldl (fun sum a => sum + a.number * .ofNat a.milliseconds) sum

/-- **The total in nanoseconds**, counted in doubles and rounded to a whole number. -/
def nanoseconds? (amounts : List Amount) : Option Nat :=
  (counted .zero amounts * .ofNat 1000000).roundHalfUp

/-- The total is below `2 ^ 64` nanoseconds. -/
def Fits (amounts : List Amount) : Prop := ∃ n ∈ nanoseconds? amounts, n < 0x10000000000000000

/-- The milliseconds of an amount, exactly. -/
def Amount.exact (a : Amount) : ℚ :=
  Magnitude.decimalWorth (Decimal.digitsValue (a.whole ++ a.fraction))
    (-(a.fraction.length : Int)) * a.milliseconds

/-- **The exact total in nanoseconds.** -/
def exactNanoseconds (amounts : List Amount) : ℚ := (amounts.map Amount.exact).sum * 1000000

theorem Amount.exact_nonneg (a : Amount) : 0 ≤ a.exact :=
  mul_nonneg (Magnitude.decimalWorth_nonneg _ _) (Nat.cast_nonneg _)

/-- What the roundings of one part add at most. -/
def grain : ℚ := Magnitude.dust * 2 ^ 38

theorem grain_nonneg : 0 ≤ grain := mul_nonneg Magnitude.dust_pos.le (by norm_num)

/-- **One more part** adds one rounding to the sum. -/
theorem near_part (hsound : a.Sound) (h : Magnitude.Near k d sum x) (hk : 2 ≤ k) (hd : 0 ≤ d)
    (hx : 0 ≤ x) :
    Magnitude.Near (k + 1) (d + grain) (sum + a.number * .ofNat a.milliseconds) (x + a.exact) := by
  obtain ⟨hone, hunit⟩ := milliseconds_bounds hsound
  have hdust := Magnitude.dust_pos
  have hcast : (a.milliseconds : ℚ) ≤ 2 ^ 36 := by exact_mod_cast hunit.le
  have hproduct : Magnitude.Near 2 (Magnitude.dust * a.milliseconds + Magnitude.dust)
      (a.number * .ofNat a.milliseconds) a.exact :=
    (Magnitude.near_ofDecimal _ _).mul hone (by omega) hdust.le (Magnitude.decimalWorth_nonneg _ _)
  have hgrown : Magnitude.dust * a.milliseconds ≤ Magnitude.dust * 2 ^ 36 :=
    mul_le_mul_of_nonneg_left hcast hdust.le
  have hnonneg : 0 ≤ Magnitude.dust * (a.milliseconds : ℚ) :=
    mul_nonneg hdust.le (Nat.cast_nonneg _)
  have hadd := h.add (hproduct.mono hk (by linarith) le_rfl a.exact_nonneg) hd (by linarith) hx
    a.exact_nonneg
  have hexact := a.exact_nonneg
  refine hadd.mono le_rfl (by linarith) ?_ (by linarith)
  rw [grain]
  linarith

/-- **All parts** add one rounding each. -/
theorem near_counted (hsound : ∀ a ∈ amounts, a.Sound) (h : Magnitude.Near k d sum x) (hk : 2 ≤ k)
    (hd : 0 ≤ d) (hx : 0 ≤ x) :
    Magnitude.Near (k + amounts.length) (d + amounts.length * grain) (counted sum amounts)
      (x + (amounts.map Amount.exact).sum) := by
  induction amounts generalizing k d sum x with
  | nil => simpa [counted] using h
  | cons a rest ih =>
    obtain ⟨ha, hrest⟩ := List.forall_mem_cons.1 hsound
    have hlater := ih hrest (near_part ha h hk hd hx) (by omega) (add_nonneg hd grain_nonneg)
      (add_nonneg hx a.exact_nonneg)
    rw [List.map_cons, List.sum_cons, List.length_cons, Nat.cast_add_one, ← add_assoc x,
      add_one_mul, add_comm _ grain, ← add_assoc d, add_comm rest.length 1, ← Nat.add_assoc]
    exact hlater

/-- **The nanoseconds are eleven roundings away from the exact total.** -/
theorem near_nanoseconds (hsound : ∀ a ∈ amounts, a.Sound) (hlength : amounts.length ≤ 8) :
    Magnitude.Near 11 (1 / 4) (counted .zero amounts * .ofNat 1000000)
      (exactNanoseconds amounts) := by
  have hsum : 0 ≤ (amounts.map Amount.exact).sum := by
    refine List.sum_nonneg fun x hx => ?_
    obtain ⟨a, -, rfl⟩ := List.mem_map.1 hx
    exact a.exact_nonneg
  have hlength' : (amounts.length : ℚ) ≤ 8 := by exact_mod_cast hlength
  have hgrains := mul_le_mul_of_nonneg_right hlength' grain_nonneg
  have hnonneg : 0 ≤ (amounts.length : ℚ) * grain := mul_nonneg (Nat.cast_nonneg _) grain_nonneg
  have hdust := Magnitude.dust_pos
  have hsmall : Magnitude.dust ≤ 2 ^ (-100 : Int) := zpow_le_zpow_right₀ (by norm_num) (by decide)
  have hnear := near_counted hsound (Magnitude.near_zero 2 le_rfl) le_rfl le_rfl le_rfl
  rw [zero_add, zero_add] at hnear
  have htotal := hnear.mul (n := 1000000) (by norm_num) (by norm_num) hnonneg hsum
  refine htotal.mono (by omega) (by push_cast; linarith) ?_ ?_
  · rw [grain] at hgrains
    norm_num at hsmall ⊢
    rw [grain]
    linarith
  · exact mul_nonneg hsum (by norm_num)

/-- **The total fits if the exact total is small**, and it does not if the exact one is big. -/
theorem fits_bounds (hsound : ∀ a ∈ amounts, a.Sound) (hlength : amounts.length ≤ 8) :
    (exactNanoseconds amounts ≤ 2 ^ 64 - 2 ^ 16 → Fits amounts) ∧
      (Fits amounts → exactNanoseconds amounts < 2 ^ 64 + 2 ^ 16) := by
  have hnear := near_nanoseconds hsound hlength
  rw [Fits, nanoseconds?]
  cases hm : counted .zero amounts * .ofNat 1000000 with
  | infinite =>
    rw [hm] at hnear
    refine ⟨fun hle => ?_, ?_⟩
    · have hover : (2 : ℚ) ^ 65 ≤ Magnitude.overflow := by
        exact_mod_cast (by decide +kernel : 2 ^ 65 ≤ Magnitude.overflow)
      have hbig := hover.trans hnear
      rw [Magnitude.slack] at hbig
      norm_num at hbig hle
      linarith
    · rintro ⟨n, hn, -⟩
      cases hn
  | finite b i =>
    rw [hm] at hnear
    obtain ⟨habove, hbelow⟩ := hnear
    rw [Magnitude.exists_roundHalfUp_lt_iff]
    rw [Magnitude.Within, Magnitude.slack] at habove hbelow
    norm_num at habove hbelow ⊢
    constructor <;> intro h <;> linarith

end RegistryProxy.Interval
