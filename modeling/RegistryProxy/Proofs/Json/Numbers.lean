import RegistryProxy.Json.Printer
import RegistryProxy.Proofs.Binary64.Shortest
import RegistryProxy.Proofs.Json.Grammar

/-!
# Proofs/Json/Numbers — every number that is written is read as a number

An integer of 64 bits is read as it was (`value?_ofInt`).  The text of a double is read as a double,
though not always as the same one, for a reader rounds three times (`readAsReal_documentDigits`).
-/

namespace RegistryProxy.Json

/-- An integer of 64 bits, with a sign or without. -/
def Number.Fits : Number → Prop
  | .int n => -0x8000000000000000 ≤ n ∧ n < 0x10000000000000000
  | .real _ => False

variable {cs ds : List Char} {sum : Nat}

/-! ## Digits -/

theorem isDigit_bounds {c : Char} (h : c.isDigit = true) : 0x30 ≤ c.toNat ∧ c.toNat ≤ 0x39 := by
  simp only [Char.isDigit, Bool.and_eq_true, decide_eq_true_eq] at h
  exact h

theorem toNat_ascii {c : Char} (h : c.isDigit = true) : c.val.toUInt8.toNat = c.toNat := by
  obtain ⟨-, hhigh⟩ := isDigit_bounds h
  rw [UInt32.toNat_toUInt8]
  exact Nat.mod_eq_of_lt (Nat.lt_of_le_of_lt hhigh (by decide))

theorem isDigit_ascii {c : Char} (h : c.isDigit = true) : isDigit c.val.toUInt8 = true := by
  simp only [isDigit, Bool.and_eq_true, decide_eq_true_eq, UInt8.le_iff_toNat_le, toNat_ascii h]
  exact isDigit_bounds h

theorem digitValue_ascii {c : Char} (h : c.isDigit = true) :
    digitValue c.val.toUInt8 = c.toNat - '0'.toNat := by
  rw [digitValue, toNat_ascii h]
  rfl

/-- Decimal digits, at least one. -/
structure DigitChars (cs : List Char) : Prop where
  /-- There is one. -/
  ne_nil : cs ≠ []
  /-- They are digits. -/
  digit : ∀ c ∈ cs, c.isDigit = true

theorem digitChars_digitsText (n : Nat) : DigitChars (Decimal.digitsText n) where
  ne_nil := Nat.toDigits_ne_nil
  digit _ hc := Nat.isDigit_of_mem_toDigits (by decide) (by decide) hc

/-- The values of digits. -/
theorem values_ascii (h : ∀ c ∈ cs, c.isDigit = true) :
    (ascii cs).map digitValue = cs.map fun c => c.toNat - '0'.toNat := by
  rw [ascii, List.map_map]
  exact List.map_congr_left fun c hc => digitValue_ascii (h c hc)

theorem DigitChars.spelled (h : DigitChars cs) : Digits (ascii cs) := by
  refine ⟨fun hnil => h.ne_nil (List.map_eq_nil_iff.1 hnil), fun b hb => ?_⟩
  obtain ⟨c, hc, rfl⟩ := List.mem_map.1 hb
  exact isDigit_ascii (h.digit c hc)

/-- What digits stand for behind a number. -/
theorem foldl_ascii (h : ∀ c ∈ cs, c.isDigit = true) (sum : Nat) :
    ((ascii cs).map digitValue).foldl (fun sum d => sum * 10 + d) sum =
      Nat.ofDigitChars 10 cs sum := by
  rw [values_ascii h, List.foldl_map]
  simp only [Nat.ofDigitChars, Nat.mul_comm 10]

/-- The digits of a number stand for it. -/
theorem foldl_digitsText (n : Nat) :
    ((ascii (Decimal.digitsText n)).map digitValue).foldl (fun sum d => sum * 10 + d) 0 = n :=
  (foldl_ascii (digitChars_digitsText n).digit 0).trans Nat.ofDigitChars_ten_toDigits

theorem head?_toDigits {n : Nat} (h : 0 < n) : (Nat.toDigits 10 n).head? ≠ some '0' := by
  induction n using Nat.strongRecOn with
  | ind n ih =>
  rw [Nat.toDigits_eq_if (by decide)]
  split
  · next hlt =>
    have hdigit : ∀ k < 10, 0 < k → some k.digitChar ≠ some '0' := by decide
    exact hdigit n hlt h
  · obtain ⟨c, cs, hcs⟩ := List.exists_cons_of_ne_nil (Nat.toDigits_ne_nil (n := n / 10) (b := 10))
    have hhead := ih (n / 10) (by omega) (by omega)
    rw [hcs] at hhead ⊢
    exact hhead

/-- A zero in front of digits stands alone. -/
theorem zero_ascii (h : ∀ c ∈ cs, c.isDigit = true) (hzero : cs.head? ≠ some '0' ∨ cs.length = 1) :
    ((ascii cs).map digitValue).head? ≠ some 0 ∨ (ascii cs).length = 1 := by
  rcases hzero with hzero | hone
  · refine .inl fun hvalue => hzero ?_
    rw [values_ascii h, List.head?_map] at hvalue
    obtain ⟨c, hhead, hc⟩ := Option.map_eq_some_iff.1 hvalue
    have hle : c.toNat ≤ '0'.toNat := Nat.sub_eq_zero_iff_le.1 hc
    have hdigit := isDigit_bounds (h c (List.mem_of_head? hhead))
    rw [hhead, Char.toNat_inj.1 (Nat.le_antisymm hle hdigit.1)]
  · exact .inr ((List.length_map ..).trans hone)

theorem zero_digitsText (n : Nat) : (Decimal.digitsText n).head? ≠ some '0' ∨
    (Decimal.digitsText n).length = 1 := by
  rcases Nat.eq_zero_or_pos n with rfl | hpos
  · exact .inr rfl
  · exact .inl (head?_toDigits hpos)

/-! ## Gathering -/

theorem le_foldl (digits : List Nat) (sum : Nat) :
    sum ≤ digits.foldl (fun sum d => sum * 10 + d) sum := by
  induction digits generalizing sum with
  | nil => exact Nat.le_refl _
  | cons d digits ih =>
    have hsum : sum ≤ sum * 10 + d := by omega
    exact Nat.le_trans hsum (ih _)

/-- Digits that fit into 64 bits are all taken. -/
theorem gather_eq (sum : Nat) (digits : List Nat)
    (h : digits.foldl (fun sum d => sum * 10 + d) sum < 0x10000000000000000) :
    Numeral.gather sum digits = (digits.foldl (fun sum d => sum * 10 + d) sum, []) := by
  induction digits generalizing sum with
  | nil => rfl
  | cons d digits ih =>
    have hsum : sum * 10 + d < 0x10000000000000000 := Nat.lt_of_le_of_lt (le_foldl ..) h
    rw [Numeral.gather, if_pos hsum]
    exact ih _ h

/-- What is taken stays within 64 bits. -/
theorem gather_lt (hsum : sum < 0x10000000000000000) (digits : List Nat) :
    (Numeral.gather sum digits).1 < 0x10000000000000000 := by
  induction digits generalizing sum with
  | nil => exact hsum
  | cons d digits ih =>
    rw [Numeral.gather]
    split
    next hlt => exact ih hlt
    next => exact hsum

/-- Digits are worth less than the power of ten above them. -/
theorem ofDigitChars_lt (h : ∀ c ∈ cs, c.isDigit = true) (sum : Nat) :
    Nat.ofDigitChars 10 cs sum < (sum + 1) * Nat.pow 10 cs.length := by
  induction cs generalizing sum with
  | nil => simp [Nat.ofDigitChars]
  | cons c cs ih =>
    obtain ⟨hc, hcs⟩ := List.forall_mem_cons.1 h
    obtain ⟨-, hhigh⟩ := isDigit_bounds hc
    have hdigit : c.toNat - '0'.toNat ≤ 9 := Nat.sub_le_of_le_add hhigh
    have hstep := ih hcs (10 * sum + (c.toNat - '0'.toNat))
    rw [Nat.ofDigitChars_cons]
    refine Nat.lt_of_lt_of_le hstep ?_
    have hpow : Nat.pow 10 (c :: cs).length = 10 * Nat.pow 10 cs.length := Nat.pow_succ'
    rw [hpow, ← Nat.mul_assoc]
    exact Nat.mul_le_mul_right _ (by omega)

/-- Up to nineteen digits are all taken. -/
theorem gather_ascii (h : ∀ c ∈ cs, c.isDigit = true)
    (hlt : Nat.ofDigitChars 10 cs sum < 0x10000000000000000) :
    Numeral.gather sum ((ascii cs).map digitValue) = (Nat.ofDigitChars 10 cs sum, []) := by
  rw [← foldl_ascii h] at hlt ⊢
  exact gather_eq _ _ hlt

/-! ## Integers -/

/-- An integer the way it is written. -/
def Numeral.ofInt (n : Int) : Numeral where
  negative := decide (n < 0)
  whole := (ascii (Decimal.digitsText n.natAbs)).map digitValue
  fraction := none
  exponent := none

theorem spelled_ofInt (n : Int) : NumeralSpelled (.ofInt n) (writeNumber (.int n)) := by
  have hdigits := digitChars_digitsText n.natAbs
  have hspelled : NumeralSpelled (.ofInt n) _ :=
    .mk hdigits.spelled (zero_ascii hdigits.digit (zero_digitsText n.natAbs)) .none .none
  simp only [decide_eq_true_eq, List.append_nil] at hspelled
  exact hspelled

/-- **An integer of 64 bits is the value of its digits.** -/
theorem value?_ofInt {n : Int} (h : Number.Fits (.int n)) :
    (Numeral.ofInt n).value? = some (.int n) := by
  obtain ⟨hlow, hhigh⟩ := h
  have hwhole : (Numeral.ofInt n).whole.foldl (fun sum d => sum * 10 + d) 0 = n.natAbs :=
    foldl_digitsText n.natAbs
  have hgather := gather_eq 0 (Numeral.ofInt n).whole (by omega)
  rw [hwhole] at hgather
  rw [Numeral.value?, hgather]
  change (if !decide (n < 0) then some (Number.int n.natAbs) else
    if 0 < n.natAbs ∧ n.natAbs ≤ 0x8000000000000000 then some (.int (-n.natAbs)) else _) = _
  by_cases hn : n < 0
  · have hneg : -(n.natAbs : Int) = n := by omega
    rw [if_neg (by simp [hn]), if_pos (by omega), hneg]
  · have hpos : (n.natAbs : Int) = n := by omega
    rw [if_pos (by simp [hn]), hpos]

/-! ## Decimals -/

variable {digits : Nat} {power : Int}

/-- **A decimal that may be written is read as a magnitude.** -/
theorem exists_scale (h : Magnitude.Bounded digits power) :
    ∃ m, Numeral.scale digits power = some m := by
  rw [Numeral.scale]
  split
  next hlow =>
    split
    next hhigh =>
      split
      next hinfinite => exact absurd hinfinite (Magnitude.product_ne_infinite h hlow hhigh)
      next => exact ⟨_, rfl⟩
    next hhigh =>
      have hzero : digits = 0 := by
        by_contra hdigits
        exact hhigh (Magnitude.le_of_bounded h hdigits)
      rw [if_pos hzero]
      exact ⟨_, rfl⟩
  next => exact ⟨_, rfl⟩

/-- So are digits behind a point. -/
theorem exists_scale_of_nonpos (hsum : sum < 0x10000000000000000) (hpower : power ≤ 0) :
    ∃ m, Numeral.scale sum power = some m := by
  rw [Numeral.scale]
  split
  next hlow =>
    obtain rfl : power = 0 := by omega
    rw [if_pos (by decide)]
    split
    next hinfinite => exact absurd hinfinite (Magnitude.integer_ne_infinite hsum)
    next => exact ⟨_, rfl⟩
  next => exact ⟨_, rfl⟩

/-- **A text that is read as a double**, with a sign in front and without. -/
def ReadAsReal (cs : List Char) : Prop := ∀ negative : Bool, ∃ n x,
  NumeralSpelled n (ascii ((if negative then ['-'] else []) ++ cs)) ∧ n.value? = some (.real x)

theorem ascii_append (cs ds : List Char) : ascii (cs ++ ds) = ascii cs ++ ascii ds :=
  List.map_append

/-- The sign in front of a number. -/
theorem ascii_sign (negative : Bool) :
    ascii (if negative then ['-'] else []) = if negative then [0x2d] else [] := by
  cases negative <;> rfl

theorem signSpelled (minus : Bool) : SignSpelled minus (ascii (if minus then ['-'] else [])) := by
  cases minus
  · exact .none
  · exact .minus

/-- The value of a number with a point. -/
theorem value?_point (negative : Bool) {whole : List Nat} (places : List Nat) {w : Nat}
    (h : Numeral.gather 0 whole = (w, [])) :
    Numeral.value? { negative, whole, fraction := some places, exponent := none } =
      (Numeral.scale (Numeral.gather w places).1
        (0 - ((places.length - (Numeral.gather w places).2.length : Nat) : Int))).map
          fun m => .real (.signed negative m) := by
  rw [Numeral.value?, h]
  rfl

/-- **Digits with a point among them** are read as a double. -/
theorem readAsReal_point (hwhole : DigitChars cs)
    (hzero : cs.head? ≠ some '0' ∨ cs.length = 1) (hlength : cs.length ≤ 18)
    (hplaces : DigitChars ds) : ReadAsReal (cs ++ '.' :: ds) := by
  intro negative
  have hspelled : NumeralSpelled { negative, whole := _, fraction := _, exponent := _ } _ :=
    .mk hwhole.spelled (zero_ascii hwhole.digit hzero) (.some hplaces.spelled) .none
  rw [List.append_nil] at hspelled
  have hlt : Nat.ofDigitChars 10 cs 0 < 0x10000000000000000 := by
    refine Nat.lt_of_lt_of_le (ofDigitChars_lt hwhole.digit 0) ?_
    refine Nat.le_trans (Nat.mul_le_mul_left _ (Nat.pow_le_pow_right (by decide) hlength)) ?_
    decide
  have hvalue := value?_point negative ((ascii ds).map digitValue) (gather_ascii hwhole.digit hlt)
  obtain ⟨m, hm⟩ := exists_scale_of_nonpos (gather_lt hlt ((ascii ds).map digitValue))
    (Int.sub_nonpos_of_le (Int.natCast_nonneg _))
  rw [hm] at hvalue
  refine ⟨_, _, ?_, hvalue⟩
  rw [ascii_append, ascii_sign, ascii_append]
  exact hspelled

/-- The value of a number with an exponent. -/
theorem value?_exponent (negative minus : Bool) {whole places power : List Nat}
    {fraction : Option (List Nat)} {w s size : Nat} (hfraction : fraction.getD [] = places)
    (hw : Numeral.gather 0 whole = (w, [])) (hs : Numeral.gather w places = (s, []))
    (hsize : power.foldl (fun e d => e * 10 + d) 0 = size) :
    Numeral.value? { negative, whole, fraction, exponent := some (minus, power) } =
      (if 0x80000000 ≤ size then if s = 0 ∨ minus then some .zero else none
        else Numeral.scale s (if minus then -(places.length : Int) - size
          else -(places.length : Int) + size)).map fun m => .real (.signed negative m) := by
  have hstart : -(places.length : Int) = ((0 : Nat) : Int) - ((places.length - 0 : Nat) : Int) := by
    omega
  subst hfraction hsize
  rw [Numeral.value?, hw]
  dsimp only
  rw [hs, hstart]
  cases fraction <;> rfl

/-- There are eighteen digits at most. -/
theorem length_digitsText (h : Magnitude.Bounded digits power) :
    (Decimal.digitsText digits).length ≤ 18 :=
  (Magnitude.length_digitsText_le (by decide)).2 (Nat.lt_of_le_of_lt h.digits_le (by decide))

/-- The power behind the letter tells that of the digits, and a power too large to read is one of a
fraction. -/
theorem exists_scale_exponent (h : Magnitude.Bounded digits power) (hdigits : digits ≠ 0)
    {places : Nat} (hplaces : places + 1 ≤ 18) {exponent : Int}
    (hexponent : exponent = power + places) :
    ∃ m, (if 0x80000000 ≤ exponent.natAbs then
      if digits = 0 ∨ exponent < 0 then some Magnitude.zero else none
      else Numeral.scale digits (if exponent < 0 then -(places : Int) - exponent.natAbs
        else -(places : Int) + exponent.natAbs)) = some m := by
  have hhigh := Magnitude.le_of_bounded h hdigits
  split
  next =>
    rw [if_pos (.inr (by omega))]
    exact ⟨_, rfl⟩
  next =>
    have hpower : (if exponent < 0 then -(places : Int) - exponent.natAbs
        else -(places : Int) + exponent.natAbs) = power := by
      split <;> omega
    rw [hpower]
    exact exists_scale h

/-- **Digits with an exponent** are read as a double. -/
theorem readAsReal_exponent (h : Magnitude.Bounded digits power) (hdigits : digits ≠ 0) {c : Char}
    (hcs : Decimal.digitsText digits = c :: cs) {fraction : Option (List Nat)} (point : List Char)
    (hfraction : fraction.getD [] = (ascii cs).map digitValue)
    (hpoint : FractionSpelled fraction (ascii point)) {exponent : Int}
    (hexponent : exponent = power + cs.length) :
    ReadAsReal ([c] ++ (point ++ ('e' :: ((if exponent < 0 then ['-'] else []) ++
      Decimal.digitsText exponent.natAbs)))) := by
  intro negative
  have hdigit : ∀ x ∈ c :: cs, x.isDigit = true := hcs ▸ (digitChars_digitsText digits).digit
  obtain ⟨hc, hrest⟩ := List.forall_mem_cons.1 hdigit
  have hone : DigitChars [c] := ⟨List.cons_ne_nil c [], List.forall_mem_singleton.2 hc⟩
  -- The digits in front of the point and those behind it are those of the number.
  have hw := gather_ascii hone.digit
    (Nat.lt_of_lt_of_le (ofDigitChars_lt hone.digit 0) (show 10 ≤ _ by decide))
  have htotal : Nat.ofDigitChars 10 cs (Nat.ofDigitChars 10 [c] 0) = digits := by
    rw [← Nat.ofDigitChars_append, List.singleton_append, ← hcs]
    exact Nat.ofDigitChars_ten_toDigits
  have hs := gather_ascii hrest (htotal.symm ▸ Nat.lt_of_le_of_lt h.digits_le (by decide))
  rw [htotal] at hs
  have hvalue := value?_exponent negative (decide (exponent < 0)) hfraction hw hs
    (foldl_digitsText exponent.natAbs)
  have hspelled : NumeralSpelled { negative, whole := _, fraction, exponent := _ } _ :=
    .mk hone.spelled (zero_ascii hone.digit (.inr rfl)) hpoint
      (.some (.inl rfl) (signSpelled (decide (exponent < 0)))
        (digitChars_digitsText exponent.natAbs).spelled)
  simp only [decide_eq_true_eq] at hspelled hvalue
  have hlength : cs.length + 1 ≤ 18 := by
    have hlength := length_digitsText h
    rwa [hcs] at hlength
  have hvalues : ((ascii cs).map digitValue).length = cs.length := by simp [ascii]
  obtain ⟨m, hm⟩ := exists_scale_exponent h hdigits hlength hexponent
  rw [hvalues, hm] at hvalue
  refine ⟨_, _, ?_, hvalue⟩
  rw [ascii_append, ascii_sign, ascii_append, ascii_append]
  have hletter : ascii ('e' :: ((if exponent < 0 then ['-'] else []) ++
      Decimal.digitsText exponent.natAbs)) = 0x65 :: (ascii (if exponent < 0 then ['-'] else []) ++
        ascii (Decimal.digitsText exponent.natAbs)) :=
    congrArg (0x65 :: ·) (ascii_append ..)
  rw [hletter]
  exact hspelled

/-- **A double with an exponent is read as a double.** -/
theorem readAsReal_scientific (h : Magnitude.Bounded digits power) (hdigits : digits ≠ 0) :
    ReadAsReal (Magnitude.scientific digits power) := by
  have hdigit := (digitChars_digitsText digits).digit
  have hexponent {c : Char} {rest : List Char} (hcs : Decimal.digitsText digits = c :: rest) :
      power + (Decimal.digitsText digits).length - 1 = power + rest.length := by
    rw [hcs, List.length_cons]
    omega
  rw [Magnitude.scientific]
  split
  next hnil => exact absurd hnil Nat.toDigits_ne_nil
  next c hcs => exact readAsReal_exponent h hdigits hcs [] rfl .none (hexponent hcs)
  next c rest hrest hcs =>
    have hrest : DigitChars rest :=
      ⟨hrest, fun x hx => hdigit x (hcs ▸ List.mem_cons_of_mem c hx)⟩
    exact readAsReal_exponent h hdigits hcs ('.' :: rest) rfl (.some hrest.spelled)
      (hexponent hcs)

theorem DigitChars.append (h : DigitChars cs) (hds : ∀ c ∈ ds, c.isDigit = true) :
    DigitChars (cs ++ ds) :=
  ⟨List.append_ne_nil_of_left_ne_nil h.ne_nil ds, List.forall_mem_append.2 ⟨h.digit, hds⟩⟩

theorem isDigit_replicate (n : Nat) : ∀ c ∈ List.replicate n '0', c.isDigit = true :=
  fun _ hc => List.eq_of_mem_replicate hc ▸ rfl

theorem DigitChars.behind_zeros (h : DigitChars cs) (n : Nat) :
    DigitChars (List.replicate n '0' ++ cs) :=
  ⟨List.append_ne_nil_of_right_ne_nil _ h.ne_nil,
    List.forall_mem_append.2 ⟨isDigit_replicate n, h.digit⟩⟩

/-- **A double without an exponent is read as a double.** -/
theorem readAsReal_positional (h : Magnitude.Bounded digits power) (hdigits : digits ≠ 0)
    (hhigh : power + (Decimal.digitsText digits).length ≤ 16) :
    ReadAsReal (if 0 ≤ power then Magnitude.positional digits power ++ ['.', '0']
      else Magnitude.positional digits power) := by
  have hlength := length_digitsText h
  have hhead := head?_toDigits (Nat.pos_of_ne_zero hdigits)
  have hchars := digitChars_digitsText digits
  have hzero : DigitChars ['0'] := digitChars_digitsText 0
  rw [Magnitude.positional]
  rw [← Decimal.digitsText] at hhead
  generalize Decimal.digitsText digits = ds at *
  by_cases hlow : 0 ≤ power
  · rw [if_pos hlow, if_pos hlow, if_neg hdigits]
    refine readAsReal_point (hchars.append (isDigit_replicate _)) (.inl ?_) ?_ hzero
    · rwa [List.head?_append_of_ne_nil _ hchars.ne_nil]
    · rw [List.length_append, List.length_replicate]
      omega
  · rw [if_neg hlow, if_neg hlow]
    dsimp only
    split
    next hplaces =>
      have hdigit {cs : List Char} (h : cs.Sublist ds) : ∀ c ∈ cs, c.isDigit = true :=
        fun c hc => hchars.digit c (h.subset hc)
      have hwhole : DigitChars (ds.take (ds.length - (-power).toNat)) := by
        refine ⟨fun hnil => ?_, hdigit (List.take_sublist ..)⟩
        have := congrArg List.length hnil
        rw [List.length_take, List.length_nil] at this
        omega
      have hfraction : DigitChars (ds.drop (ds.length - (-power).toNat)) := by
        refine ⟨fun hnil => ?_, hdigit (List.drop_sublist ..)⟩
        have := congrArg List.length hnil
        rw [List.length_drop, List.length_nil] at this
        omega
      refine readAsReal_point hwhole (.inl ?_) ?_ hfraction
      · rwa [List.head?_take, if_neg (by omega)]
      · rw [List.length_take]
        omega
    next => exact readAsReal_point hzero (.inr rfl) (by decide) (hchars.behind_zeros _)

/-- **The text of a finite double is read as a double.** -/
theorem readAsReal_documentDigits (h : Magnitude.Bounded digits power) :
    ReadAsReal (Binary64.documentDigits digits power) := by
  have hzero : DigitChars ['0'] := digitChars_digitsText 0
  rw [Binary64.documentDigits]
  split
  next => exact readAsReal_point hzero (.inr rfl) (by decide) hzero
  next hdigits =>
    split
    next hpoint => exact readAsReal_positional h hdigits hpoint.2
    next => exact readAsReal_scientific h hdigits

end RegistryProxy.Json
