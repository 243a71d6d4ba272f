import Mathlib.Data.List.DropRight
import RegistryProxy.Uplink.Breaker

/-!
# Proofs/Uplink/History — the breaker as a function of what it has counted

A breaker counts outcomes one by one, and keeps two things of their history: the failures behind the
last success, as far as it counts, and the time of the last outcome (`after_fresh`).  So its state
is told by the whole history, whatever the times of the outcomes are and in whatever order
(`state_of_history`).
-/

namespace RegistryProxy

namespace Breaker

/-! ## States -/

section States

variable {b : Breaker} {now later : Nat}

/-- The last outcome is so recent that it may keep requests back. -/
def IsRecent (b : Breaker) (now : Nat) : Prop :=
  ∃ last, b.last = some last ∧ now - last < b.failTimeout.nanoseconds

/-- With few failures a breaker is closed, whenever they were. -/
theorem stateAt_of_lt (h : b.failed < b.maxFails) : b.stateAt now = .closed := if_pos h

theorem stateAt_of_isRecent (hmany : ¬ b.failed < b.maxFails) (hrecent : b.IsRecent now) :
    b.stateAt now = .opened := by
  obtain ⟨last, hlast, hlt⟩ := hrecent
  rw [stateAt, if_neg hmany, hlast]
  exact if_pos hlt

theorem stateAt_of_not_isRecent (hmany : ¬ b.failed < b.maxFails) (hlong : ¬ b.IsRecent now) :
    b.stateAt now = .halfOpen := by
  rw [stateAt, if_neg hmany]
  split
  · next last hlast => exact if_neg fun hlt => hlong ⟨last, hlast, hlt⟩
  · rfl

theorem stateAt_eq_closed_iff : b.stateAt now = .closed ↔ b.failed < b.maxFails := by
  by_cases hfew : b.failed < b.maxFails
  · simp [stateAt_of_lt hfew, hfew]
  by_cases hrecent : b.IsRecent now
  · simp [stateAt_of_isRecent hfew hrecent, hfew]
  · simp [stateAt_of_not_isRecent hfew hrecent, hfew]

theorem stateAt_eq_opened_iff :
    b.stateAt now = .opened ↔ b.maxFails ≤ b.failed ∧ b.IsRecent now := by
  rw [← Nat.not_lt]
  by_cases hfew : b.failed < b.maxFails
  · simp [stateAt_of_lt hfew, hfew]
  by_cases hrecent : b.IsRecent now
  · simp [stateAt_of_isRecent hfew hrecent, hfew, hrecent]
  · simp [stateAt_of_not_isRecent hfew hrecent, hrecent]

theorem stateAt_eq_halfOpen_iff :
    b.stateAt now = .halfOpen ↔ b.maxFails ≤ b.failed ∧ ¬ b.IsRecent now := by
  rw [← Nat.not_lt]
  by_cases hfew : b.failed < b.maxFails
  · simp [stateAt_of_lt hfew, hfew]
  by_cases hrecent : b.IsRecent now
  · simp [stateAt_of_isRecent hfew hrecent, hrecent]
  · simp [stateAt_of_not_isRecent hfew hrecent, hfew, hrecent]

/-- Requests are refused by an open breaker, and by no other. -/
theorem isAvailableAt_eq_false_iff : b.isAvailableAt now = false ↔ b.stateAt now = .opened := by
  simp [isAvailableAt]

/-- So requests are refused for many failures of which the last is recent. -/
theorem isAvailableAt_iff :
    b.isAvailableAt now = true ↔ ¬ (b.maxFails ≤ b.failed ∧ b.IsRecent now) := by
  rw [← stateAt_eq_opened_iff, ← isAvailableAt_eq_false_iff, Bool.not_eq_false]

/-- What is recent later on was so before. -/
theorem IsRecent.of_le (h : b.IsRecent later) (hle : now ≤ later) : b.IsRecent now := by
  obtain ⟨last, hlast, hlt⟩ := h
  exact ⟨last, hlast, by omega⟩

/-- **A breaker that lets requests through does so as long as it counts nothing.** -/
theorem isAvailableAt_of_le (h : b.isAvailableAt now = true) (hle : now ≤ later) :
    b.isAvailableAt later = true := by
  rw [isAvailableAt_iff] at h ⊢
  exact fun ⟨hmany, hrecent⟩ => h ⟨hmany, hrecent.of_le hle⟩

end States

/-! ## Histories -/

/-- Outcomes, oldest first: whether the request succeeded, and when that was recorded. -/
abbrev History := List (Bool × Nat)

/-- **The failures behind the last success.** -/
def History.failures (history : History) : Nat :=
  (history.rtakeWhile fun outcome => !outcome.1).length

/-- The time of the outcome that was recorded last. -/
def History.last? (history : History) : Option Nat := history.getLast?.map Prod.snd

/-- A breaker that has counted nothing. -/
abbrev fresh (host : String) (maxFails : Nat) (failTimeout : Duration) : Breaker :=
  { host, maxFails, failTimeout }

/-- The breaker when a history has been counted. -/
def after (b : Breaker) (history : History) : Breaker :=
  history.foldl (fun b outcome => (b.record outcome.1 outcome.2).1) b

variable {b : Breaker} {host : String} {maxFails : Nat} {failTimeout : Duration} {history : History}
  {time : Nat}

/-- The last outcome is counted last. -/
theorem after_concat (b : Breaker) (history : History) (success : Bool) (time : Nat) :
    b.after (history ++ [(success, time)]) = ((b.after history).record success time).1 := by
  rw [after, List.foldl_concat]
  rfl

/-- Behind a success no failure is left. -/
theorem failures_concat_success : History.failures (history ++ [(true, time)]) = 0 := by
  rw [History.failures, List.rtakeWhile_concat_neg _ _ _ (by simp)]
  rfl

theorem failures_concat_failure :
    History.failures (history ++ [(false, time)]) = history.failures + 1 := by
  rw [History.failures, List.rtakeWhile_concat_pos _ _ _ rfl, List.length_append]
  rfl

/-- The time of an outcome replaces the one before, earlier or later. -/
theorem last?_concat (success : Bool) :
    History.last? (history ++ [(success, time)]) = some time := by
  rw [History.last?, List.getLast?_concat]
  rfl

/-- **All that a breaker keeps of a history**: the failures behind the last success, up to where it
stops counting, and the time of the last outcome. -/
theorem after_fresh (host : String) (maxFails : Nat) (failTimeout : Duration) (history : History) :
    (fresh host maxFails failTimeout).after history =
      { fresh host maxFails failTimeout with
        failed := min history.failures maxCount
        last := history.last? } := by
  induction history using List.reverseRecOn with
  | nil => rfl
  | append_singleton history outcome ih =>
    obtain ⟨success, time⟩ := outcome
    rw [after_concat, ih, last?_concat]
    cases success with
    | true =>
      rw [failures_concat_success, Nat.zero_min]
      rfl
    | false =>
      have hcount : min (min (History.failures history) maxCount + 1) maxCount =
          min (History.failures history + 1) maxCount := by omega
      rw [failures_concat_failure, ← hcount]
      rfl

/-- **The state of a breaker is told by its history.**  It is closed as long as the failures behind
the last success, as far as they are counted, are fewer than it takes; with as many it is open until
its time has passed since the last outcome, where a clock that went backwards counts as no time; and
otherwise it is half open.  It refuses requests when it is open, and then alone; and once it lets
them through it does so until the next outcome. -/
theorem state_of_history (host : String) (maxFails : Nat) (failTimeout : Duration)
    (history : History) (now : Nat) :
    let b := (fresh host maxFails failTimeout).after history
    let failures := min history.failures maxCount
    let recent := ∃ last, history.last? = some last ∧ now - last < failTimeout.nanoseconds
    (b.stateAt now = .closed ↔ failures < maxFails) ∧
      (b.stateAt now = .opened ↔ maxFails ≤ failures ∧ recent) ∧
      (b.stateAt now = .halfOpen ↔ maxFails ≤ failures ∧ ¬ recent) ∧
      (b.isAvailableAt now = false ↔ b.stateAt now = .opened) ∧
      (b.isAvailableAt now = true → ∀ later, now ≤ later → b.isAvailableAt later = true) := by
  intro b failures recent
  have hb : b = { fresh host maxFails failTimeout with
      failed := failures, last := history.last? } := after_fresh ..
  refine ⟨?_, ?_, ?_, isAvailableAt_eq_false_iff, fun h later => isAvailableAt_of_le h⟩
  · rw [hb]
    exact stateAt_eq_closed_iff
  · rw [hb]
    exact stateAt_eq_opened_iff
  · rw [hb]
    exact stateAt_eq_halfOpen_iff

/-- Two failures behind a success, the last of them told with a clock that went backwards. -/
example :
    let b := (fresh "r" 2 ⟨10⟩).after [(false, 5), (true, 6), (false, 9), (false, 7)]
    [3, 16, 17].map b.stateAt = [.opened, .opened, .halfOpen] := by decide

end Breaker

end RegistryProxy
