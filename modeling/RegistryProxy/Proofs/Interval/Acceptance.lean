import Mathlib.Data.Option.Basic
import RegistryProxy.Proofs.Interval.Total

/-!
# Proofs/Interval/Acceptance — the texts that are read as intervals

The parts are added up from the left, and all that is remembered of them is the last unit.  That is
enough to make the units decrease (`follows_some_iff`) and to keep a bare number of seconds from
standing behind another part.  But it may stand in front of one: its unit is a second like any
other, so milliseconds may follow (`followed_iff`).
-/

namespace RegistryProxy.Interval

variable {a b : Amount} {amounts : List Amount} {parts : List (List Char)} {sum m : Magnitude}
  {last : Option Nat} {unit : Nat} {text : String}

/-! ## The order of the parts -/

/-- **The documented form of an interval**: the units strictly decrease, and a part without a unit
is the only one. -/
structure Documented (amounts : List Amount) : Prop where
  /-- Every part is sound. -/
  sound : ∀ a ∈ amounts, a.Sound
  /-- The units strictly decrease. -/
  decreasing : Decreasing amounts
  /-- A part without a unit is the only one. -/
  alone : ∀ a ∈ amounts, a.suffix = [] → amounts = [a]

/-- **Seconds without their unit, and milliseconds behind them.** -/
def BareSeconds (amounts : List Amount) : Prop :=
  ∃ a b : Amount, amounts = [a, b] ∧ a.Sound ∧ b.Sound ∧ a.suffix = [] ∧
    String.ofList b.suffix = "ms"

/-- What may follow a part with a unit, or stand at the beginning. -/
def Follows : Option Nat → List Amount → Prop
  | _, [] => True
  | last, a :: rest => (a.suffix = [] → last = none) ∧ (∀ unit ∈ last, a.milliseconds < unit) ∧
    Follows (some a.milliseconds) rest

/-- Behind an amount every amount has a unit, and each unit is smaller than the one before. -/
theorem follows_some_iff : Follows (some unit) amounts ↔
    (∀ a ∈ amounts, a.suffix ≠ [] ∧ a.milliseconds < unit) ∧ Decreasing amounts := by
  induction amounts generalizing unit with
  | nil => simp [Follows, Decreasing]
  | cons a rest ih =>
    simp only [Follows, Decreasing, List.pairwise_cons, List.forall_mem_cons, ih]
    constructor
    · rintro ⟨hsuffix, hlt, hrest, hdecreasing⟩
      have hlt := hlt unit rfl
      refine ⟨⟨⟨fun hnone => ?_, hlt⟩, fun b hb => ⟨(hrest b hb).1, ?_⟩⟩,
        fun b hb => (hrest b hb).2, hdecreasing⟩
      · cases hsuffix hnone
      · exact Nat.lt_trans (hrest b hb).2 hlt
    · rintro ⟨⟨⟨hsuffix, hlt⟩, hrest⟩, hless, hdecreasing⟩
      exact ⟨fun hnone => absurd hnone hsuffix, fun _ hunit => Option.some.inj hunit ▸ hlt,
        fun b hb => ⟨(hrest b hb).1, hless b hb⟩, hdecreasing⟩

theorem milliseconds_of_bare (h : a.suffix = []) : a.milliseconds = 1000 := by
  simp [Amount.milliseconds, h]

/-- Milliseconds are the only unit below a second. -/
theorem milliseconds_lt_iff (hsound : a.Sound) (hsuffix : a.suffix ≠ []) :
    a.milliseconds < 1000 ↔ String.ofList a.suffix = "ms" := by
  have hnames : ∀ s ∈ Amount.unitNames, (units.lookup s).getD 0 < 1000 ↔ s = "ms" := by decide
  rw [Amount.milliseconds, if_neg (by simpa using hsuffix)]
  exact hnames _ (hsound.unit.resolve_left hsuffix)

theorem suffix_ne_nil_of_ms (h : String.ofList a.suffix = "ms") : a.suffix ≠ [] := by
  intro hnone
  rw [hnone] at h
  exact absurd h (by decide)

theorem milliseconds_of_ms (h : String.ofList a.suffix = "ms") : a.milliseconds = 1 := by
  rw [Amount.milliseconds, if_neg (by simpa using suffix_ne_nil_of_ms h), h]
  rfl

/-- Milliseconds follow seconds, and nothing follows milliseconds. -/
theorem bareSeconds_of_follows {rest : List Amount}
    (hsound : ∀ c ∈ a :: b :: rest, c.Sound) (hbare : a.suffix = [])
    (h : Follows (some a.milliseconds) (b :: rest)) : BareSeconds (a :: b :: rest) := by
  obtain ⟨hless, hdecreasing⟩ := follows_some_iff.1 h
  have hms : String.ofList b.suffix = "ms" := by
    refine (milliseconds_lt_iff (hsound b (by simp)) (hless b (by simp)).1).1 ?_
    exact milliseconds_of_bare hbare ▸ (hless b (by simp)).2
  cases rest with
  | nil => exact ⟨a, b, rfl, hsound a (by simp), hsound b (by simp), hbare, hms⟩
  | cons c rest =>
    have hshorter := (List.pairwise_cons.1 hdecreasing).1 c (by simp)
    rw [milliseconds_of_ms hms] at hshorter
    exact absurd (milliseconds_bounds (hsound c (by simp))).1 (by omega)

/-- Amounts that are not alone have units, from the largest to the smallest. -/
theorem documented_of_follows {rest : List Amount} (hsound : ∀ c ∈ a :: rest, c.Sound)
    (halone : a.suffix = [] → rest = []) (h : Follows (some a.milliseconds) rest) :
    Documented (a :: rest) := by
  obtain ⟨hless, hdecreasing⟩ := follows_some_iff.1 h
  refine ⟨hsound, List.pairwise_cons.2 ⟨fun b hb => (hless b hb).2, hdecreasing⟩,
    fun c hc hbare => ?_⟩
  rcases List.mem_cons.1 hc with rfl | hc
  · rw [halone hbare]
  · exact absurd hbare (hless c hc).1

theorem Documented.follows (h : Documented amounts) : Follows none amounts := by
  cases amounts with
  | nil => trivial
  | cons a rest =>
    obtain ⟨hless, hdecreasing⟩ := List.pairwise_cons.1 h.decreasing
    refine ⟨fun _ => rfl, by simp, follows_some_iff.2 ⟨fun b hb => ⟨fun hbare => ?_, hless b hb⟩,
      hdecreasing⟩⟩
    have halone := h.alone b (List.mem_cons_of_mem a hb) hbare
    rw [(List.cons.inj halone).2] at hb
    cases hb

theorem BareSeconds.follows (h : BareSeconds amounts) : Follows none amounts := by
  obtain ⟨a, b, rfl, -, -, hbare, hms⟩ := h
  refine ⟨fun _ => rfl, by simp, fun hnone => absurd hnone (suffix_ne_nil_of_ms hms), ?_, trivial⟩
  rintro _ ⟨⟩
  rw [milliseconds_of_bare hbare, milliseconds_of_ms hms]
  decide

theorem BareSeconds.sound (h : BareSeconds amounts) : ∀ a ∈ amounts, a.Sound := by
  obtain ⟨a, b, rfl, ha, hb, -⟩ := h
  simp [ha, hb]

/-- **What the last unit keeps apart.**  Sound parts are let through if they have the documented
form, and if they are seconds without their unit in front of milliseconds. -/
theorem followed_iff : (∀ a ∈ amounts, a.Sound) ∧ Follows none amounts ↔
    Documented amounts ∨ BareSeconds amounts := by
  constructor
  · rintro ⟨hsound, hfollows⟩
    match amounts, hfollows with
    | [], _ => exact .inl ⟨hsound, .nil, by simp⟩
    | [_], ⟨_, _, hrest⟩ => exact .inl (documented_of_follows hsound (fun _ => rfl) hrest)
    | a :: b :: rest, ⟨_, _, hrest⟩ =>
      by_cases hbare : a.suffix = []
      · exact .inr (bareSeconds_of_follows hsound hbare hrest)
      · exact .inl (documented_of_follows hsound (fun hnone => absurd hnone hbare) hrest)
  · rintro (h | h)
    · exact ⟨h.sound, h.follows⟩
    · exact ⟨h.sound, h.follows⟩

/-! ## The total -/

/-- The words are read as amounts of which each may follow the one before. -/
theorem total_eq_some_iff : total sum last parts = some m ↔
    ∃ amounts, parts = amounts.map Amount.text ∧ ((∀ a ∈ amounts, a.Sound) ∧ Follows last amounts) ∧
      counted sum amounts = m := by
  induction parts generalizing sum last with
  | nil =>
    simp only [total, Option.some.injEq, List.nil_eq, List.map_eq_nil_iff, exists_eq_left]
    simp [Follows, counted]
  | cons part parts ih =>
    have hall (a : Amount) : last.all (fun unit => a.milliseconds < unit) = true ↔
        ∀ unit ∈ last, a.milliseconds < unit := by
      cases last <;> simp
    simp only [total, Option.bind_eq_bind, Option.bind_eq_some_iff, Option.guard_eq_some',
      Amount.read?_eq_some_iff, Amount.unit?_eq_some_iff, ih]
    constructor
    · rintro ⟨a, ⟨rfl, hnumber⟩, unit, ⟨hbare, hunit, rfl⟩, -, hless, amounts, rfl,
        ⟨hsound, hfollows⟩, rfl⟩
      refine ⟨a :: amounts, rfl, ⟨?_, hbare, (hall a).1 hless, hfollows⟩, rfl⟩
      exact List.forall_mem_cons.2 ⟨⟨hnumber.whole, hnumber.fraction, hunit⟩, hsound⟩
    · rintro ⟨_ | ⟨a, amounts⟩, hparts, ⟨hsound, hfollows⟩, rfl⟩
      · cases hparts
      obtain ⟨rfl, rfl⟩ := List.cons.inj hparts
      obtain ⟨ha, hsound⟩ := List.forall_mem_cons.1 hsound
      obtain ⟨hbare, hless, hfollows⟩ := hfollows
      exact ⟨a, ⟨rfl, ha.soundNumber⟩, _, ⟨hbare, ha.unit, rfl⟩, (), (hall a).2 hless, amounts,
        rfl, ⟨hsound, hfollows⟩, rfl⟩

/-- A total has a duration if it has a number of nanoseconds that fits. -/
theorem isSome_ofTotal_iff : (ofTotal m).isSome = true ↔
    ∃ n ∈ (m * .ofNat 1000000).roundHalfUp, n < 0x10000000000000000 := by
  rw [ofTotal]
  cases (m * Magnitude.ofNat 1000000).roundHalfUp with
  | none => simp
  | some n => by_cases hn : n < 0x10000000000000000 <;> simp [hn]

/-- Sound parts that are let through have decreasing units. -/
theorem decreasing_of (h : Documented amounts ∨ BareSeconds amounts) :
    (∀ a ∈ amounts, a.Sound) ∧ Decreasing amounts := by
  obtain ⟨hsound, hfollows⟩ := followed_iff.2 h
  refine ⟨hsound, ?_⟩
  cases amounts with
  | nil => exact .nil
  | cons a rest =>
    obtain ⟨hrest, hdecreasing⟩ := follows_some_iff.1 hfollows.2.2
    exact List.pairwise_cons.2 ⟨fun b hb => (hrest b hb).2, hdecreasing⟩

/-- A text is written as amounts with blanks between them. -/
def Spells (text : String) (amounts : List Amount) : Prop :=
  ((text.toList.splitOnP Text.isBlank).filter fun word => !word.isEmpty) = amounts.map Amount.text

/-- **What is read is the total of the amounts** that a text spells. -/
theorem parse?_eq_some_iff {d : Duration} : parse? text = some d ↔
    ∃ amounts, Spells text amounts ∧ (Documented amounts ∨ BareSeconds amounts) ∧
      ofTotal (counted .zero amounts) = some d := by
  simp only [parse?, Spells, ← Text.words_eq_splitOnP, ← followed_iff]
  constructor
  · intro h
    obtain ⟨m, hm, hd⟩ := Option.bind_eq_some_iff.1 h
    obtain ⟨amounts, hwords, hfollowed, rfl⟩ := total_eq_some_iff.1 hm
    exact ⟨amounts, hwords, hfollowed, hd⟩
  · rintro ⟨amounts, hwords, hfollowed, hd⟩
    rw [total_eq_some_iff.2 ⟨amounts, hwords, hfollowed, rfl⟩]
    exact hd

theorem parse?_isSome_iff (text : String) : (parse? text).isSome = true ↔
    ∃ amounts, Spells text amounts ∧ (Documented amounts ∨ BareSeconds amounts) ∧ Fits amounts := by
  simp only [Fits, nanoseconds?, ← isSome_ofTotal_iff, Option.isSome_iff_exists, parse?_eq_some_iff]
  constructor
  · rintro ⟨d, amounts, hspells, hform, hd⟩
    exact ⟨amounts, hspells, hform, d, hd⟩
  · rintro ⟨amounts, hspells, hform, d, hd⟩
    exact ⟨d, amounts, hspells, hform, hd⟩

theorem isOk_parse_iff (text : String) :
    (parse text).isOk = true ↔ (parse? text).isSome = true := by
  rw [parse]
  cases parse? text <;> simp [Except.isOk, Except.toBool]

/-- **The texts that are read as intervals.**  The total that has to fit is the one in doubles; the
exact total is less than `2 ^ 16` nanoseconds away from what is allowed. -/
theorem accepted_iff (text : String) :
    ((parse text).isOk = true ↔
      ∃ amounts, Spells text amounts ∧ (Documented amounts ∨ BareSeconds amounts) ∧ Fits amounts) ∧
    ∀ amounts, Documented amounts ∨ BareSeconds amounts →
      (exactNanoseconds amounts ≤ 2 ^ 64 - 2 ^ 16 → Fits amounts) ∧
      (Fits amounts → exactNanoseconds amounts < 2 ^ 64 + 2 ^ 16) := by
  refine ⟨(isOk_parse_iff text).trans (parse?_isSome_iff text), fun amounts h => ?_⟩
  obtain ⟨hsound, hdecreasing⟩ := decreasing_of h
  exact fits_bounds hsound (length_le_eight hsound hdecreasing)

theorem accepted_iff_hour : (parse "1h").isOk = true := by
  have hspells : Spells "1h" [⟨['1'], [], ['h']⟩] := by
    rw [Spells]
    decide
  have hsound : Amount.Sound ⟨['1'], [], ['h']⟩ :=
    ⟨.inr ⟨'1', [], rfl, by decide, List.forall_mem_singleton.2 rfl⟩, by simp, .inr (by decide)⟩
  have hdocumented : Documented [⟨['1'], [], ['h']⟩] :=
    ⟨by simpa using hsound, List.pairwise_singleton _ _, by simp⟩
  have hexact : exactNanoseconds [⟨['1'], [], ['h']⟩] = 3600000000000 := by
    have hdigits : Decimal.digitsValue ['1'] = 1 := by decide
    have hunit : Amount.milliseconds ⟨['1'], [], ['h']⟩ = 3600000 := by decide
    norm_num [exactNanoseconds, Amount.exact, Magnitude.decimalWorth, hdigits, hunit]
  have hfits := ((accepted_iff "1h").2 _ (.inl hdocumented)).1 (by rw [hexact]; norm_num)
  exact (accepted_iff "1h").1.2 ⟨_, hspells, .inl hdocumented, hfits⟩

/-- Seconds without their unit do not stand alone here. -/
theorem accepted_bare_seconds : (parse "30 500ms").isOk = true ∧
    ¬ ∃ amounts, Spells "30 500ms" amounts ∧ Documented amounts ∧ Fits amounts := by
  refine ⟨by decide +kernel, ?_⟩
  rintro ⟨amounts, hspells, hdocumented, -⟩
  have hwords : amounts.map Amount.text = [['3', '0'], ['5', '0', '0', 'm', 's']] :=
    hspells.symm.trans (by decide)
  obtain ⟨a, rest, rfl, ha, hrest⟩ := List.map_eq_cons_iff.1 hwords
  have hnumber := (hdocumented.sound a List.mem_cons_self).soundNumber
  have hread : Amount.read? ['3', '0'] = some a := Amount.read?_eq_some_iff.2 ⟨ha.symm, hnumber⟩
  have hsuffix : a.suffix = [] := by
    have hbare : some a = some ⟨['3', '0'], [], []⟩ := hread.symm.trans (by decide)
    rw [Option.some.inj hbare]
  have halone := hdocumented.alone a List.mem_cons_self hsuffix
  rw [(List.cons.inj halone).2] at hrest
  cases hrest

end RegistryProxy.Interval
