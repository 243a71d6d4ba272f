import RegistryProxy.Proofs.Binary64.Whole
import RegistryProxy.Proofs.Interval.Acceptance

/-!
# Proofs/Interval/Exactness — intervals of whole milliseconds

Whole amounts are counted without a loss, for a total that is accepted has less than 53 bits of
milliseconds.  Only the last product, which turns it into nanoseconds, can be rounded; so the span
is exact if and only if the nanoseconds are short, as they are below eighteen years (`exact_iff`).
-/

namespace RegistryProxy.Interval

variable {a b : Amount} {amounts others : List Amount} {sum m : Magnitude} {n : Nat} {text : String}
  {d : Duration}

/-! ## Whole amounts -/

/-- Only zeros stand behind the point. -/
def Amount.Integral (a : Amount) : Prop :=
  10 ^ a.fraction.length ∣ Decimal.digitsValue (a.whole ++ a.fraction)

instance (a : Amount) : Decidable a.Integral := inferInstanceAs (Decidable (_ ∣ _))

/-- The number of an amount without what stands behind the point. -/
def Amount.count (a : Amount) : Nat :=
  Decimal.digitsValue (a.whole ++ a.fraction) / 10 ^ a.fraction.length

/-- **The total of whole amounts in milliseconds.** -/
def milliseconds (amounts : List Amount) : Nat :=
  (amounts.map fun a => a.count * a.milliseconds).sum

theorem Amount.Integral.digitsValue_eq (h : a.Integral) :
    Decimal.digitsValue (a.whole ++ a.fraction) = a.count * 10 ^ a.fraction.length :=
  (Nat.div_mul_cancel h).symm

/-- **The number of a whole amount** is not rounded. -/
theorem Amount.Integral.holds_number (h : a.Integral) (hlt : a.count < 2 ^ 53) :
    Magnitude.Holds a.number a.count := by
  rw [Amount.number, h.digitsValue_eq]
  exact Magnitude.holds_ofDecimal hlt a.fraction.length

theorem Amount.Integral.exact_eq (h : a.Integral) :
    a.exact = (a.count * a.milliseconds : Nat) := by
  rw [Amount.exact, h.digitsValue_eq, Magnitude.decimalWorth, zpow_neg, zpow_natCast]
  push_cast
  field_simp

/-- The exact total is a whole one. -/
theorem exactNanoseconds_eq (h : ∀ a ∈ amounts, a.Integral) :
    exactNanoseconds amounts = (milliseconds amounts * 1000000 : Nat) := by
  have hsum : (amounts.map Amount.exact).sum = milliseconds amounts := by
    induction amounts with
    | nil => simp [milliseconds]
    | cons a rest ih =>
      obtain ⟨ha, hrest⟩ := List.forall_mem_cons.1 h
      rw [List.map_cons, List.sum_cons, ih hrest, ha.exact_eq, ← Nat.cast_add]
      rfl
  rw [exactNanoseconds, hsum, Nat.cast_mul, Nat.cast_ofNat]

/-! ## Counting -/

/-- **Whole amounts are counted without a loss**, below `2 ^ 53` milliseconds. -/
theorem holds_counted (hsound : ∀ a ∈ amounts, a.Sound) (h : ∀ a ∈ amounts, a.Integral)
    (hsum : Magnitude.Holds sum n) (hlt : n + milliseconds amounts < 2 ^ 53) :
    Magnitude.Holds (counted sum amounts) (n + milliseconds amounts) := by
  induction amounts generalizing n sum with
  | nil => exact hsum
  | cons a rest ih =>
    obtain ⟨ha, hrest⟩ := List.forall_mem_cons.1 hsound
    obtain ⟨hwhole, hwholes⟩ := List.forall_mem_cons.1 h
    obtain ⟨hone, hunit⟩ := milliseconds_bounds ha
    have hcount : a.count ≤ a.count * a.milliseconds := Nat.le_mul_of_pos_right _ hone
    rw [milliseconds, List.map_cons, List.sum_cons, ← Nat.add_assoc] at hlt ⊢
    rw [← milliseconds] at hlt ⊢
    have hfactor : Magnitude.Holds (.ofNat a.milliseconds) a.milliseconds :=
      Magnitude.holds_ofNat (by omega)
    have hpart := (hwhole.holds_number (by omega)).mul hfactor (by omega)
    exact ih hrest hwholes (hsum.add hpart (by omega)) hlt

/-- **The nanoseconds of an accepted total**: the exact ones, rounded once. -/
theorem rounded_total (hsound : ∀ a ∈ amounts, a.Sound) (hlength : amounts.length ≤ 8)
    (h : ∀ a ∈ amounts, a.Integral) (hfits : Fits amounts) :
    Magnitude.Rounded (milliseconds amounts * 1000000)
      (counted .zero amounts * .ofNat 1000000) := by
  have hlt := (fits_bounds hsound hlength).2 hfits
  rw [exactNanoseconds_eq h] at hlt
  have hlt : milliseconds amounts * 1000000 < 2 ^ 64 + 2 ^ 16 := by exact_mod_cast hlt
  have hcounted := holds_counted hsound h Magnitude.holds_zero (by omega)
  rw [Nat.zero_add] at hcounted
  exact hcounted.rounded_mul (Magnitude.holds_ofNat (by decide)) (by omega)

/-! ## Reading -/

/-- The words of a text tell its amounts. -/
theorem filterMap_read? (h : ∀ a ∈ amounts, a.Sound) :
    (amounts.map Amount.text).filterMap Amount.read? = amounts := by
  rw [List.filterMap_map]
  refine (List.filterMap_congr fun a ha => ?_).trans List.filterMap_some
  exact Amount.read?_text (h a ha).soundNumber

theorem Spells.unique (h : Spells text amounts) (h' : Spells text others)
    (hsound : ∀ a ∈ amounts, a.Sound) (hsound' : ∀ a ∈ others, a.Sound) : amounts = others := by
  rw [← filterMap_read? hsound, ← filterMap_read? hsound']
  exact congrArg (List.filterMap Amount.read?) (h.symm.trans h')

theorem parse_ok_iff : parse text = .ok d ↔ parse? text = some d := by
  rw [parse]
  cases parse? text <;> simp

theorem ofTotal_eq_some (h : ofTotal m = some d) :
    (m * .ofNat 1000000).roundHalfUp = some d.nanoseconds ∧
      d.nanoseconds < 0x10000000000000000 := by
  rw [ofTotal] at h
  split at h
  next n hn =>
    split at h
    next hlt =>
      cases h
      exact ⟨hn, hlt⟩
    next => cases h
  next => cases h

/-- **An accepted interval of whole amounts** is as long as they are together, rounded once. -/
theorem exists_rounded (hspells : Spells text amounts) (hsound : ∀ a ∈ amounts, a.Sound)
    (h : ∀ a ∈ amounts, a.Integral) (hparse : parse text = .ok d) :
    (d.nanoseconds = milliseconds amounts * 1000000 ↔
        Magnitude.Short (milliseconds amounts * 1000000)) ∧
      |(d.nanoseconds : ℤ) - (milliseconds amounts * 1000000 : Nat)| * 2 ^ 53 ≤
        (milliseconds amounts * 1000000 : Nat) := by
  obtain ⟨others, hothers, hform, hd⟩ := parse?_eq_some_iff.1 (parse_ok_iff.1 hparse)
  obtain ⟨hsound', hdecreasing⟩ := decreasing_of hform
  obtain rfl := hspells.unique hothers hsound hsound'
  obtain ⟨hround, hlt⟩ := ofTotal_eq_some hd
  obtain ⟨w, hholds, hiff, hnear⟩ := rounded_total hsound (length_le_eight hsound hdecreasing) h
    ⟨d.nanoseconds, hround, hlt⟩
  obtain rfl : d.nanoseconds = w := Option.some.inj (hround.symm.trans hholds.roundHalfUp)
  exact ⟨hiff, hnear⟩

/-- **When a sum of whole amounts is exact.**  The span of an accepted interval is the total of its
amounts if and only if the total has 53 bits at most in nanoseconds, less the zeros behind them.  It
always is up to eighteen years, and it never strays by more than one part in `2 ^ 53`. -/
theorem exact_iff (hspells : Spells text amounts) (hsound : ∀ a ∈ amounts, a.Sound)
    (h : ∀ a ∈ amounts, a.Integral) (hparse : parse text = .ok d) :
    (d = .ofMilliseconds (milliseconds amounts) ↔
        Magnitude.Short (milliseconds amounts * 1000000)) ∧
      (milliseconds amounts ≤ 576460752303 → d = .ofMilliseconds (milliseconds amounts)) ∧
      |(d.nanoseconds : ℤ) - (milliseconds amounts * 1000000 : Nat)| * 2 ^ 53 ≤
        (milliseconds amounts * 1000000 : Nat) := by
  obtain ⟨hiff, hnear⟩ := exists_rounded hspells hsound h hparse
  have hexact : d = .ofMilliseconds (milliseconds amounts) ↔
      Magnitude.Short (milliseconds amounts * 1000000) := by
    rw [← hiff]
    exact ⟨congrArg Duration.nanoseconds, congrArg Duration.mk⟩
  refine ⟨hexact, fun hle => hexact.2 ?_, hnear⟩
  -- Six of the zeros are those of a million.
  exact ⟨milliseconds amounts * 15625, 6, by omega, by omega⟩

theorem Amount.sound_of_read? (part : List Char) (h : Amount.read? part = some a)
    (hunit : String.ofList a.suffix ∈ unitNames) : a.Sound := by
  obtain ⟨-, hnumber⟩ := read?_eq_some_iff.1 h
  exact ⟨hnumber.whole, hnumber.fraction, .inr hunit⟩

/-- An hour and a half, with a point in it. -/
theorem exact_iff_hours :
    parse "1h 30.0m" = .ok ⟨5400000000000⟩ ∧
      (⟨5400000000000⟩ : Duration) =
        .ofMilliseconds (milliseconds [⟨['1'], [], ['h']⟩, ⟨['3', '0'], ['0'], ['m']⟩]) := by
  have hparse : parse "1h 30.0m" = .ok ⟨5400000000000⟩ := by decide +kernel
  have hspells : Spells "1h 30.0m" [⟨['1'], [], ['h']⟩, ⟨['3', '0'], ['0'], ['m']⟩] := by
    rw [Spells]
    decide
  have hhour : Amount.Sound ⟨['1'], [], ['h']⟩ :=
    Amount.sound_of_read? ['1', 'h'] (by decide) (by decide)
  have hhalf : Amount.Sound ⟨['3', '0'], ['0'], ['m']⟩ :=
    Amount.sound_of_read? ['3', '0', '.', '0', 'm'] (by decide) (by decide)
  exact ⟨hparse, (exact_iff hspells (by simp [hhour, hhalf]) (by decide) hparse).2.1 (by decide)⟩

/-- Nineteen years and a millisecond. -/
def nineteenYears : List Amount := [⟨['1', '9'], [], ['y']⟩, ⟨['1'], [], ['m', 's']⟩]

/-- **Nineteen years and a millisecond are 64 nanoseconds too short.** -/
theorem nineteenYears_shortened :
    Spells "19y 1ms" nineteenYears ∧ Documented nineteenYears ∧
      (∀ a ∈ nineteenYears, a.Integral) ∧ milliseconds nineteenYears = 599184000001 ∧
      parse "19y 1ms" = .ok ⟨599184000000999936⟩ ∧
      parse "19y 1ms" ≠ .ok (.ofMilliseconds 599184000001) := by
  have hspells : Spells "19y 1ms" nineteenYears := by
    rw [Spells]
    decide
  have hyears : Amount.Sound ⟨['1', '9'], [], ['y']⟩ :=
    Amount.sound_of_read? ['1', '9', 'y'] (by decide) (by decide)
  have hrest : Amount.Sound ⟨['1'], [], ['m', 's']⟩ :=
    Amount.sound_of_read? ['1', 'm', 's'] (by decide) (by decide)
  have hdocumented : Documented nineteenYears := by
    refine ⟨by simp [nineteenYears, hyears, hrest], ?_, by simp [nineteenYears]⟩
    rw [Decreasing]
    decide
  have hparse : parse "19y 1ms" = .ok ⟨599184000000999936⟩ := by decide +kernel
  refine ⟨hspells, hdocumented, by decide, by decide, hparse, ?_⟩
  rw [hparse]
  intro heq
  exact absurd (congrArg Duration.nanoseconds (Except.ok.inj heq)) (by decide)

end RegistryProxy.Interval
