import RegistryProxy.Proofs.Search.Cursors

/-!
# Proofs/Search/Retention — what a scanner keeps between two chunks

Between two chunks a scanner keeps the element that it is in the midst of, or the string that is
open in the outermost object before the array, and nothing else; so it keeps no more than it may
unless such a string is longer than a name that is remembered (`kept_between`).  The length of a
string is looked at only when it ends, so such a string is kept however long it is, and no bound
holds for what is kept (`kept_unbounded`).
-/

namespace RegistryProxy

namespace Scanner

variable {s : Scanner} {b : UInt8} {bytes : Bytes} {chunks : List Bytes} {found : List Span}

namespace Reading

variable {r : Reading}

/-- **How many bytes may be kept**: as many as came of the element at hand; without one as many as a
name that is remembered has with its quote, and behind the start of the array none. -/
def allowance (r : Reading) : Nat :=
  match r.elementAt with
  | some first => r.received.length - first
  | none => if r.scanner.phase = .seeking then maxNameLength + 1 else 0

/-- **No more is needed than may be kept** unless a string is at hand that is longer than a name
that is remembered. -/
theorem needed_le_iff : r.needed.length ≤ r.allowance ↔
    (r.elementAt = none → r.scanner.atMembers = true → r.scanner.inString = true →
      r.received.length - r.quoteAt ≤ maxNameLength + 1) := by
  rw [needed, allowance]
  cases r.elementAt with
  | some first =>
    exact iff_of_true (Nat.le_of_eq List.length_drop) fun h => absurd h (Option.some_ne_none first)
  | none =>
    dsimp only
    by_cases hopen : (r.scanner.atMembers && r.scanner.inString) = true
    · obtain ⟨hmembers, hin⟩ := Bool.and_eq_true_iff.1 hopen
      have hseeking : r.scanner.phase = .seeking :=
        beq_iff_eq.1 (Bool.and_eq_true_iff.1 hmembers).1
      rw [if_pos hopen, if_pos hseeking, List.length_drop]
      exact ⟨fun h _ _ _ => h, fun h => h rfl hmembers hin⟩
    · rw [if_neg hopen]
      exact iff_of_true (Nat.zero_le _) fun _ hmembers hin =>
        absurd (Bool.and_eq_true_iff.2 ⟨hmembers, hin⟩) hopen

end Reading

/-- **Between two chunks** a scanner keeps what came since the first byte of the element at hand, or
since the quote of the string at hand where names stand, and nothing else.  What came are the bytes
of the chunks, up to the end of the array.  So it keeps no more than it may if and only if that
string is no longer than a name that is remembered, with its quote. -/
theorem kept_between (h : feedAll {} chunks = .ok s) :
    ∃ r, Reading.Run {} r ∧ r.feeding = false ∧ r.scanner = s ∧
      (∃ later, chunks.flatten = r.received ++ later ∧ (s.phase ≠ .done → later = [])) ∧
      s.buffer = r.needed ∧
      (s.buffer.length ≤ r.allowance ↔
        (r.elementAt = none → s.atMembers = true → s.inString = true →
          r.received.length - r.quoteAt ≤ maxNameLength + 1)) := by
  obtain ⟨r, hrun, hidle, rfl, hreceived⟩ := Reading.run_feedAll Reading.sound_empty rfl h
  have hkept := (hrun.sound Reading.sound_empty).kept_eq hidle
  refine ⟨r, hrun, hidle, rfl, hreceived, hkept, ?_⟩
  rw [hkept]
  exact Reading.needed_le_iff

/-- An element is at hand. -/
theorem kept_between_element :
    ∃ s r,
      feedAll {} [Utf8.encode "\x7b\"total\":1,\"objects\":[", Utf8.encode " \x7b\"a"] = .ok s ∧
        s.buffer = Utf8.encode "\x7b\"a" ∧ Reading.Run {} r ∧ r.scanner = s ∧
          r.needed = Utf8.encode "\x7b\"a" := by
  obtain ⟨s, hfeed, hbuffer⟩ : ∃ s,
      feedAll {} [Utf8.encode "\x7b\"total\":1,\"objects\":[", Utf8.encode " \x7b\"a"] = .ok s ∧
        s.buffer = Utf8.encode "\x7b\"a" := ⟨_, rfl, rfl⟩
  obtain ⟨r, hrun, -, hscanner, -, hkept, -⟩ := kept_between hfeed
  exact ⟨s, r, hfeed, hbuffer, hrun, hscanner, hkept ▸ hbuffer⟩

/-! ## A string that does not end -/

theorem step_plain (hin : s.inString = true) (hplain : b ≠ 0x22) :
    ∃ escaped, s.step b = .ok ({ s.ahead with escaped }, none) := by
  rw [step, look, if_pos (c := s.ahead.inString = true) hin, stringByte,
    if_neg hplain]
  split
  · exact ⟨false, rfl⟩
  split
  · exact ⟨true, rfl⟩
  · exact ⟨s.escaped, rfl⟩

theorem scan_plain (hin : s.inString = true) (hdone : s.phase ≠ .done)
    (hplain : ∀ b ∈ bytes, b ≠ 0x22) :
    ∃ escaped, s.scan found bytes =
      .ok ({ s with position := s.position + bytes.length, escaped }, found.reverse) := by
  induction bytes generalizing s with
  | nil => exact ⟨s.escaped, rfl⟩
  | cons b bytes ih =>
    rw [List.forall_mem_cons] at hplain
    obtain ⟨escaped, hstep⟩ := step_plain hin hplain.1
    obtain ⟨escaped', hscan⟩ := ih (s := { s.ahead with escaped }) hin hdone hplain.2
    refine ⟨escaped', ?_⟩
    rw [scan, if_neg hdone, hstep]
    refine hscan.trans ?_
    rw [List.length_cons, Nat.add_comm bytes.length, ← Nat.add_assoc]

/-- **A string of the outermost object is kept** as long as it does not end. -/
theorem kept_plain (hplain : ∀ b ∈ bytes, b ≠ 0x22) :
    ∃ s, feedAll {} [0x7b :: 0x22 :: bytes] = .ok s ∧ s.elementStart = none ∧
      s.buffer = 0x22 :: bytes := by
  -- Behind its bracket and its quote.
  let s : Scanner := {
    buffer := 0x7b :: 0x22 :: bytes
    position := 2
    depth := 1
    inString := true
    stringStart := 1 }
  obtain ⟨escaped, hscan⟩ := scan_plain (s := s) rfl nofun hplain
  have hfeed := feed_eq (s := {}) nofun rfl (0x7b :: 0x22 :: bytes)
  have hopened : (extend {} (0x7b :: 0x22 :: bytes)).scan [] (0x7b :: 0x22 :: bytes) =
      s.scan [] bytes := rfl
  rw [hopened, hscan] at hfeed
  refine ⟨compact { s with position := s.position + bytes.length, escaped }, ?_, rfl, rfl⟩
  rw [feedAll, hfeed]
  rfl

/-- **No bound holds** for what is kept outside of elements. -/
theorem kept_unbounded (n : Nat) :
    ∃ s, feedAll {} [0x7b :: 0x22 :: List.replicate n 0x61] = .ok s ∧ s.elementStart = none ∧
      s.buffer.length = n + 1 := by
  have hplain : ∀ b ∈ List.replicate n (0x61 : UInt8), b ≠ 0x22 := by
    intro b hb
    rw [List.eq_of_mem_replicate hb]
    decide
  obtain ⟨s, hfeed, hnone, hbuffer⟩ := kept_plain hplain
  refine ⟨s, hfeed, hnone, ?_⟩
  rw [hbuffer, List.length_cons, List.length_replicate]

/-- **A name is kept that is too long to be remembered**, with no element at hand. -/
theorem long_name_kept :
    ∃ s, feedAll {} [0x7b :: 0x22 :: List.replicate 100 0x61] = .ok s ∧ s.elementStart = none ∧
      maxNameLength + 1 < s.buffer.length := by
  obtain ⟨s, hfeed, hnone, hlength⟩ := kept_unbounded 100
  exact ⟨s, hfeed, hnone, hlength ▸ by decide⟩

end Scanner

end RegistryProxy
