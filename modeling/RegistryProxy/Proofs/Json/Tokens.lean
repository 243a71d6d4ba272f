import Mathlib.Data.Option.Basic
import RegistryProxy.Proofs.Json.Grammar
import RegistryProxy.Proofs.Text.Span

/-!
# Proofs/Json/Tokens — reading spaces, texts and numbers

The readers of tokens take what the grammar allows, and nothing else: each comes with the bytes that
it took (`…_spelled`), and takes such bytes wherever they stand (`…_of_…`).  A number stops where it
could not go on, so what follows it matters (`Ends`).
-/

namespace RegistryProxy.Json

variable {bytes rest : Bytes} {b : UInt8}

/-- Behind a guard that let the reader through its condition holds. -/
theorem of_guard {p : Prop} [Decidable p] {u : Unit} (h : (guard p : Option Unit) = some u) :
    p := by
  change (if p then pure () else failure) = some u at h
  split at h
  · assumption
  · cases h

/-! ## Spaces -/

/-- Spaces in front are passed over. -/
theorem skipSpace_append {blank : Bytes} (h : Blank blank) (rest : Bytes) :
    skipSpace (blank ++ rest) = skipSpace rest :=
  List.dropWhile_append_of_pos h

/-- A byte that is no space stays. -/
theorem skipSpace_cons (h : isSpace b = false) (rest : Bytes) :
    skipSpace (b :: rest) = b :: rest := by
  rw [skipSpace, List.dropWhile_cons_of_neg (by simp [h])]

theorem isSpace_cases (h : isSpace b = true) : b = 0x20 ∨ b = 0x0a ∨ b = 0x0d ∨ b = 0x09 := by
  simpa only [isSpace, Bool.or_eq_true, beq_iff_eq, or_assoc] using h

/-- What is passed over are spaces. -/
theorem exists_blank (bytes : Bytes) : ∃ blank, Blank blank ∧ bytes = blank ++ skipSpace bytes := by
  refine ⟨bytes.takeWhile isSpace, ?_, List.takeWhile_append_dropWhile.symm⟩
  intro x hx
  exact List.all_eq_true.1 List.all_takeWhile x hx

/-- Up to a byte that is no space there are only spaces. -/
theorem exists_blank_of_skipSpace (h : skipSpace bytes = b :: rest) :
    ∃ blank, Blank blank ∧ bytes = blank ++ b :: rest := by
  obtain ⟨blank, hblank, hbytes⟩ := exists_blank bytes
  exact ⟨blank, hblank, h ▸ hbytes⟩

/-! ## Texts -/

/-- The pieces that are read are those that the text up to its closing quote spells. -/
theorem readPieces_spelled {pieces : List Piece} (h : readPieces bytes = some (pieces, rest)) :
    ∃ quoted, bytes = quoted ++ 0x22 :: rest ∧ Quoted pieces quoted := by
  fun_induction readPieces bytes generalizing pieces rest with
  | case1 => cases h
  | case2 rest' =>
    cases h
    exact ⟨[], rfl, .nil⟩
  | case3 a b c d rest' ih =>
    obtain ⟨code, hcode, h⟩ := Option.bind_eq_some_iff.1 h
    obtain ⟨⟨more, rest''⟩, hmore, h⟩ := Option.bind_eq_some_iff.1 h
    cases h
    obtain ⟨quoted, rfl, hquoted⟩ := ih hmore
    exact ⟨_, rfl, .unit hcode hquoted⟩
  | case4 b rest' _ ih =>
    obtain ⟨value, hvalue, h⟩ := Option.bind_eq_some_iff.1 h
    obtain ⟨⟨more, rest''⟩, hmore, h⟩ := Option.bind_eq_some_iff.1 h
    cases h
    obtain ⟨quoted, rfl, hquoted⟩ := ih hmore
    exact ⟨_, rfl, .escape hvalue hquoted⟩
  | case5 b rest' hquote _ _ ih =>
    obtain ⟨_, hguard, h⟩ := Option.bind_eq_some_iff.1 h
    obtain ⟨⟨more, rest''⟩, hmore, h⟩ := Option.bind_eq_some_iff.1 h
    cases h
    obtain ⟨quoted, rfl, hquoted⟩ := ih hmore
    have hprinted := of_guard hguard
    rw [Bool.and_eq_true, decide_eq_true_iff, bne_iff_ne] at hprinted
    exact ⟨b :: quoted, rfl, .byte hprinted.1 hquote hprinted.2 hquoted⟩

/-- **Every way to spell the pieces of a text is read**: a byte as it is, a short escape, a code
unit in four digits. -/
theorem readPieces_of_quoted {pieces : List Piece} {quoted : Bytes} (h : Quoted pieces quoted)
    (rest : Bytes) : readPieces (quoted ++ 0x22 :: rest) = some (pieces, rest) := by
  induction h with
  | nil => rfl
  | @byte b pieces bytes printed quote slash _ ih =>
    have hguard : (decide (0x20 ≤ b) && b != 0x5c) = true := by simp [printed, slash]
    rw [List.cons_append, readPieces.eq_5 _ _ quote (fun _ _ _ _ _ h => absurd h slash)
      (fun _ _ h => absurd h slash), ih, hguard]
    rfl
  | @escape b value pieces bytes short _ ih =>
    have hunit : b ≠ 0x75 := by
      rintro rfl
      simp [shortEscape] at short
    rw [List.cons_append, List.cons_append,
      readPieces.eq_4 _ _ (fun _ _ _ _ _ h => absurd h hunit), ih, short]
    rfl
  | unit hex _ ih =>
    simp only [List.cons_append]
    rw [readPieces.eq_3, ih, hex]
    rfl

/-- The text of a name is the one of its pieces. -/
theorem nameText_eq {name : Bytes} {pieces : List Piece} (h : Quoted pieces name) :
    nameText name = pieceText pieces := by
  rw [nameText, readPieces_of_quoted h []]
  rfl

/-! ## Numbers -/

/-- Whether a byte behind a number would belong to it. -/
def goesOn (b : UInt8) : Bool := isDigit b || b == 0x2e || b == 0x65 || b == 0x45

/-- **What follows does not belong to a number in front of it.** -/
def Ends (rest : Bytes) : Prop := ∀ b, rest.head? = some b → goesOn b = false

theorem ends_nil : Ends [] := nofun

/-- A number ends before spaces. -/
theorem ends_of_blank {blank : Bytes} (h : Blank blank) : Ends blank := by
  cases blank with
  | nil => exact ends_nil
  | cons y blank =>
    have hspace := isSpace_cases (h y List.mem_cons_self)
    intro x hx
    cases hx
    rcases hspace with rfl | rfl | rfl | rfl <;> decide

theorem ends_blank {blank : Bytes} (h : Blank blank) (hb : goesOn b = false) :
    Ends (blank ++ b :: rest) := by
  intro x hx
  cases blank with
  | nil =>
    cases hx
    exact hb
  | cons y blank => exact ends_of_blank h x hx

/-- Neither a digit nor a point follows a number. -/
theorem Ends.ne (h : Ends rest) (hb : rest.head? = some b) : isDigit b = false ∧ b ≠ 0x2e := by
  have hgoes := h b hb
  simp only [goesOn, Bool.or_eq_false_iff, beq_eq_false_iff_ne] at hgoes
  exact hgoes.1.1

theorem Ends.isDigit_eq (h : Ends rest) (hb : rest.head? = some b) : isDigit b = false :=
  (h.ne hb).1

/-- Digits are taken up to the first byte that is none. -/
theorem takeDigits_of_digits {digits : Bytes} (h : Digits digits)
    (hrest : ∀ b, rest.head? = some b → isDigit b = false) :
    takeDigits (digits ++ rest) = (digits.map digitValue, rest) := by
  rw [takeDigits, Span.takeWhile_append h.2 hrest, Span.dropWhile_append h.2 hrest]

/-- The digits that are taken stand in front. -/
theorem takeDigits_spelled {values : List Nat} (h : takeDigits bytes = (values, rest))
    (hvalues : values ≠ []) :
    ∃ digits, bytes = digits ++ rest ∧ Digits digits ∧ values = digits.map digitValue := by
  obtain ⟨rfl, rfl⟩ := Prod.mk.injEq .. ▸ h
  refine ⟨bytes.takeWhile isDigit, List.takeWhile_append_dropWhile.symm, ⟨?_, ?_⟩, rfl⟩
  · intro hnil
    exact hvalues (by rw [hnil]; rfl)
  · intro x hx
    exact List.all_eq_true.1 List.all_takeWhile x hx

/-- A fraction that is read has its point and a digit at least, or is not there. -/
theorem readFraction_spelled {places : Option (List Nat)}
    (h : readFraction bytes = some (places, rest)) :
    ∃ fraction, bytes = fraction ++ rest ∧ FractionSpelled places fraction := by
  rw [readFraction.eq_def] at h
  split at h
  · next after =>
    obtain ⟨values, rest', htake⟩ : ∃ values rest', takeDigits after = (values, rest') :=
      ⟨_, _, rfl⟩
    rw [htake] at h
    dsimp only at h
    split at h
    · cases h
    next hvalues =>
    cases h
    obtain ⟨digits, rfl, hdigits, rfl⟩ := takeDigits_spelled htake (by simpa using hvalues)
    exact ⟨0x2e :: digits, rfl, .some hdigits⟩
  · cases h
    exact ⟨[], rfl, .none⟩

theorem readFraction_of_spelled {places : Option (List Nat)} {fraction : Bytes}
    (h : FractionSpelled places fraction)
    (hrest : ∀ b, rest.head? = some b → isDigit b = false ∧ b ≠ 0x2e) :
    readFraction (fraction ++ rest) = some (places, rest) := by
  cases h with
  | none =>
    rw [List.nil_append, readFraction.eq_def]
    split
    · next after => exact absurd rfl (hrest 0x2e rfl).2
    · rfl
  | @some digits hdigits =>
    rw [List.cons_append, readFraction,
      takeDigits_of_digits hdigits fun b hb => (hrest b hb).1]
    dsimp only
    rw [if_neg]
    simpa using hdigits.1

/-- The digits of an exponent, whose sign is known. -/
def powerOf (minus : Bool) (bytes : Bytes) : Option (Option (Bool × List Nat) × Bytes) :=
  if (takeDigits bytes).1.isEmpty then none
  else some (some (minus, (takeDigits bytes).1), (takeDigits bytes).2)

/-- The sign of an exponent is taken first; without a sign it is positive. -/
theorem readPower_eq_powerOf (bytes : Bytes) :
    ∃ minus sign after, bytes = sign ++ after ∧ SignSpelled minus sign ∧
      readPower bytes = powerOf minus after := by
  rw [readPower.eq_def]
  dsimp only
  split
  · exact ⟨false, [0x2b], _, rfl, .plus, rfl⟩
  · exact ⟨true, [0x2d], _, rfl, .minus, rfl⟩
  · exact ⟨false, [], bytes, rfl, .none, rfl⟩

theorem readPower_sign {minus : Bool} {sign after : Bytes} (hsign : SignSpelled minus sign)
    (hafter : ∀ b, after.head? = some b → isDigit b = true) :
    readPower (sign ++ after) = powerOf minus after := by
  cases hsign with
  | none =>
    rw [List.nil_append, readPower.eq_def]
    dsimp only
    split
    · exact absurd (hafter 0x2b rfl) (by decide)
    · exact absurd (hafter 0x2d rfl) (by decide)
    · rfl
  | plus => rfl
  | minus => rfl

/-- An exponent that is read has a digit at least behind its sign. -/
theorem readPower_spelled {power : Option (Bool × List Nat)}
    (h : readPower bytes = some (power, rest)) :
    ∃ minus sign digits, bytes = sign ++ (digits ++ rest) ∧ SignSpelled minus sign ∧
      Digits digits ∧ power = some (minus, digits.map digitValue) := by
  obtain ⟨minus, sign, after, rfl, hsign, hpower⟩ := readPower_eq_powerOf bytes
  rw [hpower, powerOf] at h
  split at h
  · cases h
  next hvalues =>
  obtain ⟨values, rest', htake⟩ : ∃ values rest', takeDigits after = (values, rest') :=
    ⟨_, _, rfl⟩
  rw [htake] at h hvalues
  cases h
  obtain ⟨digits, rfl, hdigits, rfl⟩ := takeDigits_spelled htake (by simpa using hvalues)
  exact ⟨minus, sign, digits, rfl, hsign, hdigits, rfl⟩

theorem readPower_of_spelled {minus : Bool} {sign digits : Bytes} (hsign : SignSpelled minus sign)
    (hdigits : Digits digits) (hrest : ∀ b, rest.head? = some b → isDigit b = false) :
    readPower (sign ++ (digits ++ rest)) = some (some (minus, digits.map digitValue), rest) := by
  obtain ⟨b, more, rfl⟩ := List.exists_cons_of_ne_nil hdigits.1
  have hhead : ∀ x, (b :: more ++ rest).head? = some x → isDigit x = true := by
    intro x hx
    cases hx
    exact hdigits.2 b List.mem_cons_self
  rw [readPower_sign hsign hhead, powerOf, takeDigits_of_digits hdigits hrest]
  rfl

/-- An exponent that is read has its letter, or is not there. -/
theorem readExponent_spelled {power : Option (Bool × List Nat)}
    (h : readExponent bytes = some (power, rest)) :
    ∃ exponent, bytes = exponent ++ rest ∧ PowerSpelled power exponent := by
  rw [readExponent.eq_def] at h
  split at h
  · obtain ⟨minus, sign, digits, rfl, hsign, hdigits, rfl⟩ := readPower_spelled h
    exact ⟨_, by simp, .some (.inl rfl) hsign hdigits⟩
  · obtain ⟨minus, sign, digits, rfl, hsign, hdigits, rfl⟩ := readPower_spelled h
    exact ⟨_, by simp, .some (.inr rfl) hsign hdigits⟩
  · cases h
    exact ⟨[], rfl, .none⟩

/-- An exponent is read with either letter. -/
theorem readExponent_of_spelled {power : Option (Bool × List Nat)} {exponent : Bytes}
    (h : PowerSpelled power exponent) (hrest : Ends rest) :
    readExponent (exponent ++ rest) = some (power, rest) := by
  cases h with
  | none =>
    rw [List.nil_append, readExponent.eq_def]
    split
    · exact absurd (hrest 0x65 rfl) (by decide)
    · exact absurd (hrest 0x45 rfl) (by decide)
    · rfl
  | @some letter minus sign digits hletter hsign hdigits =>
    have hread := readPower_of_spelled hsign hdigits fun b hb => hrest.isDigit_eq hb
    rw [List.cons_append, List.append_assoc]
    rcases hletter with rfl | rfl
    · exact hread
    · exact hread

/-- Where a fraction or an exponent begins, no digit stands. -/
theorem head?_power {power : Option (Bool × List Nat)} {exponent : Bytes}
    (h : PowerSpelled power exponent) (hrest : Ends rest) :
    ∀ b, (exponent ++ rest).head? = some b → isDigit b = false ∧ b ≠ 0x2e := by
  intro b hb
  cases h with
  | none => exact hrest.ne hb
  | some hletter _ _ =>
    cases hb
    rcases hletter with rfl | rfl <;> decide

/-- Where a fraction begins, no digit stands. -/
theorem head?_fraction {places : Option (List Nat)} {fraction after : Bytes}
    (h : FractionSpelled places fraction)
    (hafter : ∀ b, after.head? = some b → isDigit b = false) :
    ∀ b, (fraction ++ after).head? = some b → isDigit b = false := by
  intro b hb
  cases h with
  | none => exact hafter b hb
  | some _ =>
    cases hb
    decide

/-- **A numeral that is read is one of the grammar**, and the minus that was taken before it is its
sign. -/
theorem readNumeral_spelled {negative : Bool} {n : Numeral}
    (h : readNumeral negative bytes = some (n, rest)) :
    ∃ numeral, bytes = numeral ++ rest ∧
      NumeralSpelled n ((if negative then [0x2d] else []) ++ numeral) := by
  rw [readNumeral] at h
  obtain ⟨values, after, htake⟩ : ∃ values after, takeDigits bytes = (values, after) := ⟨_, _, rfl⟩
  rw [htake] at h
  obtain ⟨_, hguard, h⟩ := Option.bind_eq_some_iff.1 h
  obtain ⟨⟨places, after'⟩, hfraction, h⟩ := Option.bind_eq_some_iff.1 h
  obtain ⟨⟨power, rest'⟩, hpower, h⟩ := Option.bind_eq_some_iff.1 h
  cases h
  have hwhole := of_guard hguard
  rw [Bool.and_eq_true, Bool.or_eq_true, bne_iff_ne, beq_iff_eq] at hwhole
  obtain ⟨digits, rfl, hdigits, rfl⟩ := takeDigits_spelled htake (by simpa using hwhole.1)
  obtain ⟨fraction, rfl, hplaces⟩ := readFraction_spelled hfraction
  obtain ⟨exponent, rfl, hexponent⟩ := readExponent_spelled hpower
  rw [List.length_map] at hwhole
  exact ⟨digits ++ (fraction ++ exponent), by simp, .mk hdigits hwhole.2 hplaces hexponent⟩

/-- **A numeral is read wherever it ends**: behind its minus it begins with a digit. -/
theorem readNumeral_of_spelled {n : Numeral} (h : NumeralSpelled n bytes) :
    ∃ numeral, bytes = (if n.negative then [0x2d] else []) ++ numeral ∧
      (∃ b more, numeral = b :: more ∧ isDigit b = true) ∧
      ∀ rest, Ends rest → readNumeral n.negative (numeral ++ rest) = some (n, rest) := by
  obtain @⟨negative, whole, fraction, exponent, places, power, hdigits, hzero, hplaces, hpower⟩ := h
  obtain ⟨b, more, hwhole⟩ := List.exists_cons_of_ne_nil hdigits.1
  have hb : isDigit b = true := hdigits.2 b (by simp [hwhole])
  refine ⟨_, rfl, ⟨b, more ++ (fraction ++ exponent), by rw [hwhole]; rfl, hb⟩, ?_⟩
  intro rest hrest
  have hexponent := head?_power hpower hrest
  have hfraction := head?_fraction hplaces fun b hb => (hexponent b hb).1
  have hguard : (!(whole.map digitValue).isEmpty && ((whole.map digitValue).head? != some 0 ||
      (whole.map digitValue).length == 1)) = true := by
    rw [Bool.and_eq_true, Bool.or_eq_true, bne_iff_ne, beq_iff_eq, List.length_map]
    exact ⟨by simpa using hdigits.1, hzero⟩
  rw [readNumeral, List.append_assoc, List.append_assoc, takeDigits_of_digits hdigits hfraction]
  dsimp only
  rw [readFraction_of_spelled hplaces hexponent, hguard]
  change (readExponent (exponent ++ rest)).bind _ = _
  rw [readExponent_of_spelled hpower hrest]
  rfl

end RegistryProxy.Json
