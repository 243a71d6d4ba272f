import RegistryProxy.Proofs.Search.View

/-!
# Proofs/Search/Looks — what looking at a byte does

`Looks` says once what a scanner can become when it looks at a byte: it is in a string, or opens
one, or meets a bracket, or a byte between the values.  From it one reads off what becomes of each
index: the element at hand stays, ends, or begins with that byte (`Looks.elementStart_eq`), and so
does the string at hand (`Looks.stringStart_eq`).
-/

namespace RegistryProxy

namespace Scanner

variable {s : Scanner} {b : UInt8} {x : Scanner × Option Span}

/-! ## All that a byte can do -/

/-- **What becomes of the element at hand**, and the span that is given. -/
inductive Ends (s : Scanner) : Option Nat → Option Span → Prop
  | keeps : Ends s s.elementStart none
  | before : Ends s none (s.elementStart.map fun start => ⟨start, s.position⟩)
  | behind : Ends s none (s.elementStart.map fun start => ⟨start, s.position + 1⟩)

/-- **What looking at a byte does**, unless it fails. -/
inductive Looks (s : Scanner) : Scanner × Option Span → Prop
  | string (b : UInt8) (inside : s.inString = true) :
    Looks s (s.ahead.stringByte s.position b, none)
  | quote (outside : s.inString = false) :
    Looks s ({
      s.ahead with
      inString := true, stringStart := s.position, elementStart := s.startedAt s.position }, none)
  | opens (outside : s.inString = false) (phase : Phase)
    (inside : s.phase ≠ .seeking → phase = s.phase) :
    Looks s ({
      s.ahead with depth := s.depth + 1, elementStart := s.startedAt s.position, phase }, none)
  | shuts (outside : s.inString = false) :
    Looks s ({ s.ahead with depth := s.depth - 1, elementStart := none, phase := .done },
      s.elementStart.map fun start => ⟨start, s.position⟩)
  | closes {start : Option Nat} {span : Option Span} (outside : s.inString = false)
    (ends : s.Ends start span) :
    Looks s ({ s.ahead with depth := s.depth - 1, elementStart := start }, span)
  | passes {start : Option Nat} {span : Option Span} (outside : s.inString = false)
    (lastString key : Option Bytes) (ends : s.Ends start span) :
    Looks s ({ s.ahead with lastString, key, elementStart := start }, span)
  | begins (outside : s.inString = false) :
    Looks s ({ s.ahead with elementStart := s.startedAt s.position }, none)

/-- A closing bracket closes one that is open. -/
theorem depth_closeBracket {i : Nat} (h : s.closeBracket i = .ok x) :
    x.1.depth + 1 = s.depth := by
  rw [closeBracket] at h
  split at h
  · cases h
  next hdepth =>
  have hopen : s.depth - 1 + 1 = s.depth := Nat.succ_pred hdepth
  split at h
  · cases h
    exact hopen
  · dsimp only at h
    split at h <;> cases h <;> exact hopen

theorem looks_closeBracket (hout : s.inString = false)
    (h : s.ahead.closeBracket s.position = .ok x) : s.Looks x := by
  rw [closeBracket] at h
  split at h
  · cases h
  split at h
  · cases h
    exact .shuts hout
  dsimp only at h
  split at h
  · cases h
    exact .closes hout .behind
  · cases h
    exact .closes hout .keeps

theorem looks_comma (hout : s.inString = false) : s.Looks (s.ahead.comma s.position) := by
  rw [comma]
  dsimp only
  split
  · split
    · exact .passes hout none none .before
    · exact .passes hout none none .keeps
  · split
    · exact .passes hout s.lastString s.key .before
    · exact .passes hout s.lastString s.key .keeps

theorem looks_step (h : s.step b = .ok x) : s.Looks x := by
  rw [step, look] at h
  split at h
  · next hin =>
    cases h
    exact .string b hin
  next hin =>
  have hout : s.inString = false := by simpa using hin
  split at h
  · cases h
    rw [startElement_eq]
    exact .quote hout
  split at h
  · cases h
    rw [openBracket_eq]
    exact .opens hout _ fun hinside => if_neg fun hseeking => hinside hseeking.1
  split at h
  · exact looks_closeBracket hout h
  split at h
  · cases h
    rw [colon]
    split
    · exact .passes hout none s.lastString .keeps
    · exact .passes hout s.lastString s.key .keeps
  split at h
  · cases h
    exact looks_comma hout
  split at h
  · cases h
    exact .passes hout s.lastString s.key .keeps
  · cases h
    rw [startElement_eq]
    exact .begins hout

theorem stringByte_eq (s : Scanner) (i : Nat) (b : UInt8) :
    ∃ inString escaped lastString,
      s.stringByte i b = { s with inString, escaped, lastString } := by
  rw [stringByte]
  split
  · exact ⟨s.inString, false, s.lastString, rfl⟩
  split
  · exact ⟨s.inString, true, s.lastString, rfl⟩
  split
  · dsimp only
    split
    · exact ⟨false, s.escaped, _, rfl⟩
    · exact ⟨false, s.escaped, s.lastString, rfl⟩
  · exact ⟨s.inString, s.escaped, s.lastString, rfl⟩

theorem startedAt_eq (s : Scanner) (i : Nat) :
    s.startedAt i = s.elementStart ∨
      (s.elementStart = none ∧ s.phase = .elements ∧ s.startedAt i = some i) := by
  rw [startedAt]
  split
  · next h =>
    obtain ⟨helements, hnone⟩ := Bool.and_eq_true_iff.1 h
    obtain ⟨hphase, -⟩ := Bool.and_eq_true_iff.1 helements
    exact .inr ⟨Option.isNone_iff_eq_none.1 hnone, beq_iff_eq.1 hphase, rfl⟩
  · exact .inl rfl

/-! ## What becomes of the indices -/

/-- The buffer stays, and the next byte comes next. -/
theorem Looks.ahead_eq (h : s.Looks x) :
    x.1.buffer = s.buffer ∧ x.1.position = s.position + 1 := by
  cases h with
  | string b =>
    obtain ⟨inString, escaped, lastString, heq⟩ := s.ahead.stringByte_eq s.position b
    rw [heq]
    exact ⟨rfl, rfl⟩
  | quote | opens | shuts | closes | passes | begins => exact ⟨rfl, rfl⟩

/-- **The element at hand** stays, ends, or begins with the byte that is looked at. -/
theorem Looks.elementStart_eq (h : s.Looks x) :
    x.1.elementStart = none ∨ x.1.elementStart = s.elementStart ∨
      (s.elementStart = none ∧ s.phase = .elements ∧ x.1.elementStart = some s.position) := by
  cases h with
  | string b =>
    obtain ⟨inString, escaped, lastString, heq⟩ := s.ahead.stringByte_eq s.position b
    rw [heq]
    exact .inr (.inl rfl)
  | quote | opens | begins => exact .inr (s.startedAt_eq s.position)
  | shuts => exact .inl rfl
  | closes _ hends | passes _ _ _ hends =>
    cases hends with
    | keeps => exact .inr (.inl rfl)
    | before | behind => exact .inl rfl

/-- With an element at hand the array is not closed. -/
theorem Looks.phase_eq (h : s.Looks x) (hsome : x.1.elementStart ≠ none)
    (helements : s.phase = .elements) : x.1.phase = .elements := by
  cases h with
  | string b =>
    obtain ⟨inString, escaped, lastString, heq⟩ := s.ahead.stringByte_eq s.position b
    rw [heq]
    exact helements
  | opens _ phase hinside => exact (hinside (by rw [helements]; decide)).trans helements
  | shuts => exact absurd rfl hsome
  | quote | closes | passes | begins => exact helements

/-- **A string that is open** was so before, or begins with the byte that is looked at. -/
theorem Looks.stringStart_eq (h : s.Looks x) (hopen : x.1.inString = true) :
    (s.inString = true ∧ x.1.atMembers = s.atMembers ∧ x.1.stringStart = s.stringStart) ∨
      (s.inString = false ∧ x.1.stringStart = s.position) := by
  cases h with
  | string b hin =>
    obtain ⟨inString, escaped, lastString, heq⟩ := s.ahead.stringByte_eq s.position b
    rw [heq]
    exact .inl ⟨hin, rfl, rfl⟩
  | quote hout => exact .inr ⟨hout, rfl⟩
  | opens hout | shuts hout | closes hout | passes hout | begins hout =>
    exact absurd (hopen.symm.trans hout) (by decide)

/-- The span of an element tells where it started. -/
theorem elementStart_of_span {stop : Nat} {part : Span}
    (h : (s.elementStart.map fun start => ⟨start, stop⟩) = some part) :
    s.elementStart = some part.start ∧ part.stop = stop := by
  obtain ⟨start, hstart, rfl⟩ := Option.map_eq_some_iff.1 h
  exact ⟨hstart, rfl⟩

/-- **An element that ends was at hand**, and ends with the byte that is looked at or before it. -/
theorem Looks.span_eq (h : s.Looks x) {part : Span} (hpart : x.2 = some part) :
    s.elementStart = some part.start ∧
      (part.stop = s.position ∨ part.stop = s.position + 1) := by
  cases h with
  | string | quote | opens | begins => cases hpart
  | shuts => exact (elementStart_of_span hpart).imp id .inl
  | closes _ hends | passes _ _ _ hends =>
    cases hends with
    | keeps => cases hpart
    | before => exact (elementStart_of_span hpart).imp id .inl
    | behind => exact (elementStart_of_span hpart).imp id .inr

/-- A closing bracket outside of strings closes one that is open. -/
theorem depth_step (hout : s.inString = false) (hbyte : b = 0x7d ∨ b = 0x5d)
    (h : s.step b = .ok x) : x.1.depth + 1 = s.depth := by
  have hquote : b ≠ 0x22 := by rcases hbyte with rfl | rfl <;> decide
  have hopen : ¬ (b = 0x7b ∨ b = 0x5b) := by rcases hbyte with rfl | rfl <;> decide
  rw [step, look, if_neg (by simp [hout]), if_neg hquote, if_neg hopen, if_pos hbyte] at h
  have hclosed : x.1.depth + 1 = s.ahead.depth := depth_closeBracket h
  exact hclosed

end Scanner

end RegistryProxy
