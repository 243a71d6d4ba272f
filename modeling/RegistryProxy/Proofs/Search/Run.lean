import RegistryProxy.Proofs.Search.Feed

/-!
# Proofs/Search/Run — one run after another

Running over bytes in two goes is running over them in one (`run_append`).  The scanner never looks
for the array again once it is inside, and elements end only there (`Onward`); so brackets can fail
only where no element has ended yet (`found_eq_nil`).
-/

namespace RegistryProxy

namespace Scanner

namespace View

variable {v v' : View} {b : UInt8} {ended : Option Bytes} {bytes more : Bytes} {found : List Bytes}

/-! ## Runs put together -/

/-- **Two goes are one.** -/
theorem run_append (v : View) (bytes more : Bytes) :
    v.run (bytes ++ more) = do
      let (v, found) ← v.run bytes
      let (v, others) ← v.run more
      return (v, found ++ others) := by
  induction bytes generalizing v with
  | nil =>
    rw [List.nil_append]
    change _ = (v.run more).bind _
    cases v.run more <;> rfl
  | cons b rest ih =>
    rw [List.cons_append, run, run]
    by_cases hdone : v.phase = .done
    · rw [if_pos hdone, if_pos hdone]
      change _ = (v.run more).bind _
      rw [run_of_done hdone]
      rfl
    rw [if_neg hdone, if_neg hdone]
    cases v.step b with
    | error e => rfl
    | ok x =>
      obtain ⟨v₁, ended⟩ := x
      change (v₁.run (rest ++ more)).bind _ = ((v₁.run rest).bind _).bind _
      rw [ih]
      cases v₁.run rest with
      | error e => rfl
      | ok y =>
        obtain ⟨v₂, found⟩ := y
        change ((v₂.run more).bind _).bind _ = (v₂.run more).bind _
        cases v₂.run more with
        | error e => rfl
        | ok z =>
          refine congrArg (fun elements => Except.ok (z.1, elements)) ?_
          exact (List.append_assoc ..).symm

theorem run_append_of_ok (h : v.run bytes = .ok (v', found)) (more : Bytes) :
    v.run (bytes ++ more) = (v'.run more).map fun x => (x.1, found ++ x.2) := by
  rw [run_append, h]
  change (v'.run more).bind _ = _
  cases v'.run more <;> rfl

theorem run_append_of_error {e : Error} (h : v.run bytes = .error e) (more : Bytes) :
    v.run (bytes ++ more) = .error e := by
  rw [run_append, h]
  rfl

/-- A run that succeeds takes its first byte, and then the others. -/
theorem run_cons_ok (hdone : v.phase ≠ .done) (h : v.run (b :: bytes) = .ok (v', found)) :
    ∃ v₁ ended others, v.step b = .ok (v₁, ended) ∧ v₁.run bytes = .ok (v', others) ∧
      found = ended.toList ++ others := by
  rw [run, if_neg hdone] at h
  cases hstep : v.step b with
  | error e =>
    rw [hstep] at h
    cases h
  | ok x =>
    rw [hstep] at h
    change (x.1.run bytes).bind _ = _ at h
    cases hrest : x.1.run bytes with
    | error e =>
      rw [hrest] at h
      cases h
    | ok y =>
      rw [hrest] at h
      cases h
      exact ⟨x.1, x.2, y.2, rfl, hrest, rfl⟩

/-! ## What a run keeps -/

/-- **Inside the array its bracket is open**, and so is the one of the outermost object. -/
def Settled (v : View) : Prop := v.phase = .elements → elementDepth ≤ v.depth

theorem settled_empty : Settled {} := nofun

theorem atElements_iff : v.atElements = true ↔ v.phase = .elements ∧ v.depth = elementDepth := by
  rw [atElements, Bool.and_eq_true, beq_iff_eq, beq_iff_eq]

/-- **What a step keeps**: the scanner never looks for the array again, and elements end only
inside it. -/
structure Onward (v v' : View) (ended : Option Bytes) : Prop where
  /-- The brackets around the elements stay open. -/
  settled : v.Settled → v'.Settled
  /-- Before the array nothing ends. -/
  seeking : v'.phase = .seeking → v.phase = .seeking ∧ ended = none

/-- Nothing ends, and the brackets stay as they are. -/
theorem onward_of_same (hphase : v'.phase = v.phase) (hdepth : v'.depth = v.depth) :
    Onward v v' none where
  settled h helements := by
    rw [hdepth]
    exact h (hphase ▸ helements)
  seeking h := ⟨hphase ▸ h, rfl⟩

theorem onward_stringByte : Onward v (v.stringByte b) none := by
  rw [stringByte]
  split
  · exact onward_of_same rfl rfl
  · split
    · exact onward_of_same rfl rfl
    · split <;> exact onward_of_same rfl rfl

/-- Only the bracket of the array leads into it, and two are open then. -/
theorem onward_openBracket : Onward v (v.openBracket b) none := by
  rw [openBracket]
  constructor
  · intro h helements
    dsimp only at helements ⊢
    split at helements
    · next harray => exact Nat.le_of_eq harray.2.2.1.symm
    · exact Nat.le_succ_of_le (h helements)
  · intro hseeking
    dsimp only at hseeking
    split at hseeking
    · cases hseeking
    · exact ⟨hseeking, rfl⟩

/-- A bracket that closes an element or the array is inside it. -/
theorem onward_closeBracket (h : v.closeBracket b = .ok (v', ended)) : Onward v v' ended := by
  rw [closeBracket] at h
  split at h
  · cases h
  split at h
  · next hat =>
    cases h
    constructor
    · intro _ helements
      cases helements
    · intro hseeking
      cases hseeking
  next hnot =>
  split at h
  · next hat =>
    cases h
    obtain ⟨hphase, hdepth⟩ := atElements_iff.1 hat
    refine ⟨fun _ _ => Nat.le_of_eq hdepth.symm, ?_⟩
    intro hseeking
    exact absurd (hseeking.symm.trans hphase) (by decide)
  · cases h
    refine ⟨?_, fun hseeking => ⟨hseeking, rfl⟩⟩
    intro h helements
    -- The bracket is not that of the array, so more than two are open.
    have hdepth : v.depth ≠ elementDepth := fun hdepth =>
      hnot (atElements_iff.2 ⟨helements, hdepth⟩)
    have hle := h helements
    dsimp only
    omega

theorem onward_colon : Onward v (v.colon b) none := by
  rw [colon]
  split <;> exact onward_of_same rfl rfl

theorem onward_comma : Onward v (v.comma b).1 (v.comma b).2 := by
  rw [comma]
  split
  · next hat =>
    obtain ⟨hphase, -⟩ := atElements_iff.1 hat
    exact ⟨id, fun hseeking => absurd (hseeking.symm.trans hphase) (by decide)⟩
  · split <;> exact onward_of_same rfl rfl

/-- **So does every step.** -/
theorem step_onward (h : v.step b = .ok (v', ended)) : Onward v v' ended := by
  rw [step] at h
  split at h
  · cases h
    exact onward_stringByte
  split at h
  · cases h
    exact onward_of_same rfl rfl
  split at h
  · cases h
    exact onward_openBracket
  split at h
  · exact onward_closeBracket h
  split at h
  · cases h
    exact onward_colon
  split at h
  · have hcomma := Except.ok.inj h
    have honward := onward_comma (v := v) (b := b)
    rwa [hcomma] at honward
  · split at h
    · cases h
      exact onward_of_same rfl rfl
    · cases h
      exact onward_of_same rfl rfl

/-- **Inside the array every byte is taken**, for only a bracket that closes nothing is not. -/
theorem step_total (h : v.Settled) (helements : v.phase = .elements) (b : UInt8) :
    ∃ x, v.step b = .ok x := by
  have hdepth : v.depth ≠ 0 := by
    have hle := h helements
    rw [elementDepth] at hle
    omega
  rw [step, closeBracket, if_neg hdepth]
  repeat' split
  all_goals exact ⟨_, rfl⟩

/-- And every run: if the array was not met, nothing was found. -/
theorem run_onward (h : v.Settled) (hrun : v.run bytes = .ok (v', found)) :
    v'.Settled ∧ (v'.phase = .seeking → v.phase = .seeking ∧ found = []) := by
  induction bytes generalizing v found with
  | nil =>
    cases hrun
    exact ⟨h, fun hseeking => ⟨hseeking, rfl⟩⟩
  | cons b rest ih =>
    by_cases hdone : v.phase = .done
    · rw [run_of_done hdone] at hrun
      cases hrun
      exact ⟨h, fun hseeking => ⟨hseeking, rfl⟩⟩
    obtain ⟨v₁, ended, others, hstep, hrest, rfl⟩ := run_cons_ok hdone hrun
    have honward := step_onward hstep
    obtain ⟨hsettled, hseeking⟩ := ih (honward.settled h) hrest
    refine ⟨hsettled, ?_⟩
    intro hphase
    obtain ⟨hphase₁, rfl⟩ := hseeking hphase
    obtain ⟨hphase₀, rfl⟩ := honward.seeking hphase₁
    exact ⟨hphase₀, rfl⟩

/-- **Once the array was met, a run takes all bytes.** -/
theorem run_total (h : v.Settled) (hphase : v.phase ≠ .seeking) (bytes : Bytes) :
    ∃ x, v.run bytes = .ok x := by
  induction bytes generalizing v with
  | nil => exact ⟨_, rfl⟩
  | cons b rest ih =>
    rw [run]
    split
    · exact ⟨_, rfl⟩
    next hdone =>
    have helements : v.phase = .elements := by
      cases hp : v.phase with
      | seeking => exact absurd hp hphase
      | elements => rfl
      | done => exact absurd hp hdone
    obtain ⟨⟨v₁, ended⟩, hstep⟩ := step_total h helements b
    have honward := step_onward hstep
    obtain ⟨y, hrest⟩ := ih (honward.settled h) fun hseeking => hphase (honward.seeking hseeking).1
    rw [hstep]
    change ∃ x, (v₁.run rest).bind _ = _
    rw [hrest]
    exact ⟨_, rfl⟩

/-- **Behind an element no failure comes** from the brackets. -/
theorem found_eq_nil (h : v.Settled) (hrun : v.run bytes = .ok (v', found)) {e : Error}
    (herror : v'.run more = .error e) : found = [] := by
  obtain ⟨hsettled, hseeking⟩ := run_onward h hrun
  by_cases hphase : v'.phase = .seeking
  · exact (hseeking hphase).2
  · obtain ⟨x, hx⟩ := run_total hsettled hphase more
    rw [hx] at herror
    cases herror

/-- The bytes up to the end of the first element. -/
theorem exists_first {element : Bytes} (hrun : v.run bytes = .ok (v', element :: found)) :
    ∃ front back v₁, front ++ back = bytes ∧ v.run front = .ok (v₁, [element]) := by
  induction bytes generalizing v with
  | nil => cases hrun
  | cons b rest ih =>
    have hdone : v.phase ≠ .done := by
      intro hdone
      rw [run_of_done hdone] at hrun
      cases hrun
    obtain ⟨v₁, ended, others, hstep, hrest, hfound⟩ := run_cons_ok hdone hrun
    have hfront : ∀ front, v.run (b :: front) =
        (v₁.run front).map fun x => (x.1, ended.toList ++ x.2) := by
      intro front
      rw [run, if_neg hdone, hstep]
      change (v₁.run front).bind _ = _
      cases v₁.run front <;> rfl
    cases ended with
    | some first =>
      obtain ⟨rfl, -⟩ := List.cons.inj hfound
      exact ⟨[b], rest, v₁, rfl, hfront []⟩
    | none =>
      obtain rfl : element :: found = others := hfound
      obtain ⟨front, back, v₂, rfl, hv₂⟩ := ih hrest
      refine ⟨b :: front, back, v₂, rfl, ?_⟩
      rw [hfront, hv₂]
      rfl

end View

end Scanner

end RegistryProxy
