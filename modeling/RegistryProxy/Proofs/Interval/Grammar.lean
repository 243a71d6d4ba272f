import RegistryProxy.Interval
import RegistryProxy.Proofs.Text.Span

/-!
# Proofs/Interval/Grammar — how the parts of an interval are spelled

A text is cut into words, and each word is an amount: digits, perhaps a point with more digits, and
perhaps a unit.  `Amount.text` spells an amount, and `Amount.read?` undoes it for the amounts with
sound digits (`read?_eq_some_iff`).
-/

namespace RegistryProxy

/-! ## Words -/

/-- The words are what the standard library finds between blanks, without the empty pieces. -/
theorem Text.words_eq_splitOnP (cs : List Char) :
    words cs = (cs.splitOnP isBlank).filter fun word => !word.isEmpty := by
  induction cs with
  | nil => rfl
  | cons c cs ih =>
    rw [words.eq_def, List.splitOnP_cons_eq_if_modifyHead]
    dsimp only
    split
    next => exact ih
    next hc =>
      cases cs with
      | nil => rfl
      | cons d ds =>
        rw [ih, List.splitOnP_cons_eq_if_modifyHead]
        dsimp only
        split
        next hd => rfl
        next hd =>
          obtain ⟨word, rest, hsplit⟩ :=
            List.exists_cons_of_ne_nil (List.splitOnP_ne_nil isBlank ds)
          rw [hsplit]
          rfl

namespace Interval

variable {a : Amount} {part cs : List Char} {sum m : Magnitude} {last : Option Nat}
  {parts : List (List Char)} {amounts : List Amount}

/-! ## Amounts -/

/-- Zero, or digits of which the first is no zero. -/
def IsWhole (cs : List Char) : Prop :=
  cs = ['0'] ∨ ∃ c rest, cs = c :: rest ∧ c ≠ '0' ∧ ∀ d ∈ c :: rest, d.isDigit = true

namespace Amount

/-- The digits of a fraction with a point in front, if there are any. -/
def pointed : List Char → List Char
  | [] => []
  | c :: cs => '.' :: c :: cs

theorem pointed_of_ne_nil (h : cs ≠ []) : pointed cs = '.' :: cs := by
  obtain ⟨c, rest, rfl⟩ := List.exists_cons_of_ne_nil h
  rfl

/-- **The amount as it is spelled.** -/
def text (a : Amount) : List Char := a.whole ++ pointed a.fraction ++ a.suffix

/-- The digits of an amount are sound, and all of them stand in the number. -/
structure SoundNumber (a : Amount) : Prop where
  /-- The digits before the point have no leading zero. -/
  whole : IsWhole a.whole
  /-- The digits behind the point are digits. -/
  fraction : ∀ c ∈ a.fraction, c.isDigit = true
  /-- No digit follows the number. -/
  digit : ∀ c ∈ a.suffix.head?, c.isDigit = false
  /-- No point follows a number without a fraction. -/
  point : a.fraction = [] → a.suffix.head? ≠ some '.'

/-- The check for a leading zero is that of the grammar. -/
theorem isWhole_iff (hdigits : ∀ d ∈ cs, d.isDigit = true) :
    IsWhole cs ↔ ¬ (cs.isEmpty || (1 < cs.length && cs.head? == some '0')) = true := by
  cases cs with
  | nil => simp [IsWhole]
  | cons c rest =>
    by_cases hc : c = '0'
    · subst hc
      simp [IsWhole]
    · exact iff_of_true (.inr ⟨c, rest, rfl, hc, hdigits⟩) (by simp [hc])

theorem SoundNumber.digits (h : a.SoundNumber) : ∀ c ∈ a.whole, c.isDigit = true := by
  rcases h.whole with hzero | ⟨c, rest, hwhole, -, hdigits⟩
  · rw [hzero]
    exact List.forall_mem_singleton.2 rfl
  · rwa [hwhole]

/-- What is read as an amount is what it spells. -/
theorem eq_text_of_read? (h : read? part = some a) : part = a.text ∧ a.SoundNumber := by
  have hdigits (cs : List Char) : ∀ d ∈ cs.takeWhile Char.isDigit, d.isDigit = true :=
    List.all_eq_true.1 List.all_takeWhile
  have hpart : part.takeWhile Char.isDigit ++ part.dropWhile Char.isDigit = part :=
    List.takeWhile_append_dropWhile
  have hhead := Span.head?_dropWhile Char.isDigit part
  rw [read?] at h
  dsimp only at h
  split at h
  next => cases h
  next hwhole =>
  have hwhole := (isWhole_iff (hdigits part)).2 hwhole
  split at h
  next rest hrest =>
    split at h
    next => cases h
    next hfraction =>
      cases h
      rw [List.isEmpty_iff] at hfraction
      refine ⟨?_, hwhole, hdigits rest, Span.head?_dropWhile Char.isDigit rest,
        fun hnone => absurd hnone hfraction⟩
      rw [text, pointed_of_ne_nil hfraction, List.append_assoc, List.cons_append,
        List.takeWhile_append_dropWhile, ← hrest, hpart]
  next hrest =>
    cases h
    refine ⟨?_, hwhole, by simp, hhead, fun _ hpoint => ?_⟩
    · rw [text, pointed, List.append_nil, hpart]
    · obtain ⟨rest, hrest'⟩ := List.head?_eq_some_iff.1 hpoint
      exact hrest rest hrest'

/-- What an amount with sound digits spells is read as it. -/
theorem read?_text (h : a.SoundNumber) : read? a.text = some a := by
  have hwhole := (isWhole_iff h.digits).1 h.whole
  obtain ⟨whole, fraction, suffix⟩ := a
  have hdigits : ∀ c ∈ whole, c.isDigit = true := h.digits
  have hfraction : ∀ c ∈ fraction, c.isDigit = true := h.fraction
  have hdigit : ∀ c ∈ suffix.head?, c.isDigit = false := h.digit
  have hpoint : ∀ c ∈ (pointed fraction ++ suffix).head?, c.isDigit = false := by
    cases fraction with
    | nil => exact hdigit
    | cons c cs =>
      rintro _ ⟨⟩
      rfl
  rw [read?, text, List.append_assoc, Span.takeWhile_append hdigits hpoint,
    Span.dropWhile_append hdigits hpoint]
  dsimp only
  rw [if_neg hwhole]
  cases fraction with
  | nil =>
    rw [pointed, List.nil_append]
    split
    next rest => exact absurd rfl (h.point rfl)
    next => rfl
  | cons c cs =>
    change (if ((c :: cs ++ suffix).takeWhile Char.isDigit).isEmpty then none else
      some (⟨whole, (c :: cs ++ suffix).takeWhile Char.isDigit,
        (c :: cs ++ suffix).dropWhile Char.isDigit⟩ : Amount)) = _
    rw [Span.takeWhile_append hfraction hdigit, Span.dropWhile_append hfraction hdigit]
    rfl

/-- **An amount is read from what it spells**, and from nothing else. -/
theorem read?_eq_some_iff : read? part = some a ↔ part = a.text ∧ a.SoundNumber := by
  refine ⟨eq_text_of_read?, ?_⟩
  rintro ⟨rfl, h⟩
  exact read?_text h

/-! ## Units -/

/-- The names of the units. -/
def unitNames : List String := ["ms", "s", "m", "h", "d", "w", "M", "y"]

/-- **An amount as it may be written**: zero or digits without a leading zero, perhaps a point with
digits behind it, and perhaps a unit. -/
structure Sound (a : Amount) : Prop where
  /-- The digits before the point have no leading zero. -/
  whole : IsWhole a.whole
  /-- Only digits stand behind the point. -/
  fraction : ∀ c ∈ a.fraction, c.isDigit = true
  /-- What follows the number is a unit. -/
  unit : a.suffix = [] ∨ String.ofList a.suffix ∈ unitNames

/-- The milliseconds of the unit; without one an amount counts seconds. -/
def milliseconds (a : Amount) : Nat :=
  if a.suffix.isEmpty then 1000 else (units.lookup (String.ofList a.suffix)).getD 0

/-- The names of units are those that the table has. -/
theorem mem_unitNames_iff {s : String} : s ∈ unitNames ↔ ∃ unit, units.lookup s = some unit := by
  constructor
  · intro h
    simp only [unitNames, List.mem_cons, List.not_mem_nil, or_false] at h
    rcases h with rfl | rfl | rfl | rfl | rfl | rfl | rfl | rfl <;> exact ⟨_, rfl⟩
  · rintro ⟨unit, hunit⟩
    obtain ⟨before, after, hunits, -⟩ := List.lookup_eq_some_iff.1 hunit
    have hmem : (s, unit) ∈ units := hunits ▸ List.mem_append_right before List.mem_cons_self
    exact List.mem_map_of_mem (f := Prod.fst) hmem

/-- A unit begins with neither a digit nor a point, so the number ends before it. -/
theorem Sound.soundNumber (h : a.Sound) : a.SoundNumber := by
  have hhead : ∀ c ∈ a.suffix.head?, c.isDigit = false ∧ c ≠ '.' := by
    rcases h.unit with hnone | hunit
    · simp [hnone]
    · have hnames : ∀ s ∈ unitNames,
          (s.toList.head?.all fun c => !c.isDigit && c != '.') = true := by decide
      have hname := hnames _ hunit
      rw [String.toList_ofList] at hname
      rintro c hc
      simpa [Option.mem_def.1 hc] using hname
  exact ⟨h.whole, h.fraction, fun c hc => (hhead c hc).1, fun _ hpoint => (hhead '.' hpoint).2 rfl⟩

/-- An amount without a unit is one of seconds, and nothing stands before it. -/
theorem unit?_eq_some_iff {unit : Nat} : a.unit? last = some unit ↔
    (a.suffix = [] → last = none) ∧ (a.suffix = [] ∨ String.ofList a.suffix ∈ unitNames) ∧
      a.milliseconds = unit := by
  rw [unit?, milliseconds, mem_unitNames_iff]
  by_cases hsuffix : a.suffix = []
  · cases last <;> simp [hsuffix]
  · simp only [List.isEmpty_iff, hsuffix, if_false]
    cases units.lookup (String.ofList a.suffix) <;> simp

end Amount

end Interval

end RegistryProxy
