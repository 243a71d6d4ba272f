import RegistryProxy.Proofs.Uplink.History

/-!
# Proofs/Uplink/Warnings — what a breaker tells of a history

A breaker warns when its count of failures meets the threshold, and when a success finds the count
there or above.  As long as no run of failures is so long that the count stops (`Counted`), the
count is the number of failures behind the last success.  So the last warning says that the uplink
is offline exactly while there are as many of these as the threshold, which is what makes the
warnings alternate (`told_fresh`).
-/

namespace RegistryProxy

namespace Breaker

variable {b : Breaker} {host : String} {maxFails : Nat} {failTimeout : Duration}
  {history before run : History} {success : Bool} {time : Nat}

/-! ## The log of a history -/

/-- What is logged at an outcome that comes behind a history. -/
def toldAt (b : Breaker) (before : History) (success : Bool) (time : Nat) : Log :=
  ((b.after before).record success time).2

/-- All that is logged while a history is counted. -/
def told (b : Breaker) : History → Log
  | [] => []
  | outcome :: rest =>
    (b.record outcome.1 outcome.2).2 ++ (b.record outcome.1 outcome.2).1.told rest

theorem told_append (b : Breaker) (before rest : History) :
    b.told (before ++ rest) = b.told before ++ (b.after before).told rest := by
  induction before generalizing b with
  | nil => rfl
  | cons outcome before ih =>
    rw [List.cons_append, told, told, ih, List.append_assoc]
    rfl

theorem told_concat (b : Breaker) (before : History) (success : Bool) (time : Nat) :
    b.told (before ++ [(success, time)]) = b.told before ++ b.toldAt before success time := by
  rw [told_append, told, told, List.append_nil]
  rfl

/-- The two warnings in turn, the one that says offline first. -/
def inTurn (host : String) (n : Nat) : Log :=
  (List.range n).map fun i => if i % 2 = 0 then wentOffline host else cameBack host

theorem inTurn_succ (host : String) (n : Nat) :
    inTurn host (n + 1) =
      inTurn host n ++ [if n % 2 = 0 then wentOffline host else cameBack host] := by
  rw [inTurn, List.range_succ, List.map_append]
  rfl

theorem wentOffline_ne_cameBack (host : String) : wentOffline host ≠ cameBack host := by
  intro h
  have htext := congrArg (fun entry => entry.message.toList) h
  simp [wentOffline, cameBack, LogEntry.warning] at htext

/-! ## Runs of failures -/

/-- No run of failures is so long that the count stops. -/
def History.Counted (history : History) : Prop :=
  ∀ run, run <:+: history → (∀ outcome ∈ run, outcome.1 = false) → run.length < maxCount

/-- Failures come on top of those that are there. -/
theorem failures_append (history : History) (hrun : ∀ outcome ∈ run, outcome.1 = false) :
    History.failures (history ++ run) = history.failures + run.length := by
  induction run using List.reverseRecOn with
  | nil => rw [List.append_nil, List.length_nil, Nat.add_zero]
  | append_singleton run outcome ih =>
    obtain ⟨success, time⟩ := outcome
    obtain rfl : success = false := hrun (success, time) (by simp)
    rw [← List.append_assoc, failures_concat_failure,
      ih fun outcome hmem => hrun outcome (by simp [hmem])]
    simp [Nat.add_assoc]

/-- The failures behind the last success are a run, and nothing in front of it counts. -/
theorem exists_failures (history : History) : ∃ start run, history = start ++ run ∧
    (∀ outcome ∈ run, outcome.1 = false) ∧ run.length = history.failures ∧
    History.failures start = 0 := by
  obtain ⟨start, hstart⟩ := history.rtakeWhile_suffix fun outcome => !outcome.1
  have hrun : ∀ outcome ∈ history.rtakeWhile fun outcome => !outcome.1, outcome.1 = false :=
    fun outcome hmem => by simpa using List.mem_rtakeWhile_imp hmem
  have hlength := failures_append start hrun
  rw [hstart] at hlength
  refine ⟨start, _, hstart.symm, hrun, rfl, ?_⟩
  rw [History.failures] at hlength
  omega

namespace History.Counted

theorem of_append {rest : History} (h : Counted (before ++ rest)) : before.Counted :=
  fun run hin => h run (hin.trans (List.prefix_append before rest).isInfix)

theorem failures_lt (h : history.Counted) : history.failures < maxCount := by
  obtain ⟨start, run, hhistory, hrun, hlength, -⟩ := exists_failures history
  rw [← hlength]
  exact h run (hhistory ▸ (List.suffix_append start run).isInfix) hrun

end History.Counted

/-! ## One outcome -/

/-- **A failure warns when it meets the threshold.** -/
theorem toldAt_failure (hcounted : History.Counted (before ++ [(false, time)])) :
    (fresh host maxFails failTimeout).toldAt before false time =
      if before.failures + 1 = maxFails then [wentOffline host] else [] := by
  have hlt := hcounted.failures_lt
  rw [failures_concat_failure] at hlt
  have hcount : min (min before.failures maxCount + 1) maxCount = before.failures + 1 := by omega
  rw [toldAt, after_fresh, record]
  dsimp only
  rw [if_neg Bool.false_ne_true, hcount]

/-- **A success warns when it finds the count at the threshold.** -/
theorem toldAt_success (hcounted : before.Counted) :
    (fresh host maxFails failTimeout).toldAt before true time =
      if maxFails ≤ before.failures then [cameBack host] else [] := by
  have hcount : min before.failures maxCount = before.failures :=
    Nat.min_eq_left hcounted.failures_lt.le
  rw [toldAt, after_fresh, record, hcount]
  rfl

/-- The failures behind the last success reach the threshold when one of them met it. -/
theorem maxFails_le_failures_iff (hmax : 1 ≤ maxFails) :
    maxFails ≤ before.failures ↔ ∃ (earlier : History) (t : Nat) (between : History),
      before = earlier ++ (false, t) :: between ∧ earlier.failures + 1 = maxFails ∧
        ∀ outcome ∈ between, outcome.1 = false := by
  constructor
  · intro hle
    obtain ⟨start, run, rfl, hrun, hlength, hstart⟩ := exists_failures before
    have hlt : maxFails - 1 < run.length := by omega
    have hmet : run[maxFails - 1].1 = false := hrun _ (List.getElem_mem hlt)
    refine ⟨start ++ run.take (maxFails - 1), run[maxFails - 1].2, run.drop maxFails, ?_, ?_,
      fun outcome hmem => hrun outcome (List.mem_of_mem_drop hmem)⟩
    · have hdrop := List.drop_eq_getElem_cons hlt
      rw [Nat.sub_add_cancel hmax] at hdrop
      rw [List.append_assoc, ← hmet, ← hdrop, List.take_append_drop]
    · rw [failures_append _ fun outcome hmem => hrun outcome (List.mem_of_mem_take hmem), hstart,
        List.length_take]
      omega
  · rintro ⟨earlier, t, between, rfl, hmet, hbetween⟩
    rw [← List.singleton_append, ← List.append_assoc, failures_append _ hbetween,
      failures_concat_failure, hmet]
    exact Nat.le_add_right _ _

/-- **Offline is told when the failures come to the threshold.** -/
theorem toldAt_eq_wentOffline_iff (hmax : 1 ≤ maxFails)
    (hcounted : History.Counted (before ++ [(success, time)])) :
    (fresh host maxFails failTimeout).toldAt before success time = [wentOffline host] ↔
      before.failures < maxFails ∧ History.failures (before ++ [(success, time)]) = maxFails := by
  cases success with
  | true =>
    rw [toldAt_success hcounted.of_append, failures_concat_success]
    refine iff_of_false ?_ (by omega)
    split <;> simp [(wentOffline_ne_cameBack host).symm]
  | false =>
    rw [toldAt_failure hcounted, failures_concat_failure]
    split
    next hmet => exact iff_of_true rfl (by omega)
    next hmiss => exact iff_of_false (by simp) (by omega)

/-- **Back online is told by a success that finds the failures at the threshold.** -/
theorem toldAt_eq_cameBack_iff (hcounted : History.Counted (before ++ [(success, time)])) :
    (fresh host maxFails failTimeout).toldAt before success time = [cameBack host] ↔
      success = true ∧ maxFails ≤ before.failures := by
  cases success with
  | true =>
    rw [toldAt_success hcounted.of_append]
    split
    next hle => exact iff_of_true rfl ⟨rfl, hle⟩
    next hlt => exact iff_of_false (by simp) (by simp [hlt])
  | false =>
    rw [toldAt_failure hcounted]
    refine iff_of_false ?_ (by simp)
    split <;> simp [wentOffline_ne_cameBack host]

/-- One warning is logged at an outcome, or none. -/
theorem toldAt_cases (hcounted : History.Counted (before ++ [(success, time)])) :
    (fresh host maxFails failTimeout).toldAt before success time = [] ∨
      (fresh host maxFails failTimeout).toldAt before success time = [wentOffline host] ∨
      (fresh host maxFails failTimeout).toldAt before success time = [cameBack host] := by
  cases success with
  | true =>
    rw [toldAt_success hcounted.of_append]
    split <;> simp
  | false =>
    rw [toldAt_failure hcounted]
    split <;> simp

/-- **The failures reach the threshold behind a failure that was told as offline.** -/
theorem maxFails_le_failures_iff_told (hmax : 1 ≤ maxFails) (hcounted : before.Counted) :
    maxFails ≤ before.failures ↔ ∃ (earlier : History) (t : Nat) (between : History),
      before = earlier ++ (false, t) :: between ∧
        (fresh host maxFails failTimeout).toldAt earlier false t = [wentOffline host] ∧
        ∀ outcome ∈ between, outcome.1 = false := by
  rw [maxFails_le_failures_iff hmax]
  refine exists_congr fun earlier => exists_congr fun t => exists_congr fun between =>
    and_congr_right ?_
  rintro rfl
  rw [← List.singleton_append, ← List.append_assoc] at hcounted
  rw [toldAt_failure hcounted.of_append]
  simp

/-! ## A whole history -/

/-- **The last warning says offline while the failures reach the threshold.** -/
theorem told_fresh (host : String) (failTimeout : Duration) (hmax : 1 ≤ maxFails)
    (hcounted : history.Counted) :
    ∃ n, (fresh host maxFails failTimeout).told history = inTurn host n ∧
      (n % 2 = 1 ↔ maxFails ≤ history.failures) := by
  induction history using List.reverseRecOn with
  | nil => exact ⟨0, rfl, by simp [History.failures]; omega⟩
  | append_singleton history outcome ih =>
    obtain ⟨n, hn, hoffline⟩ := ih hcounted.of_append
    obtain ⟨success, time⟩ := outcome
    rw [told_concat, hn]
    cases success with
    | true =>
      rw [toldAt_success hcounted.of_append, failures_concat_success]
      split
      next hle =>
        refine ⟨n + 1, ?_, by omega⟩
        rw [inTurn_succ, if_neg (by omega)]
      next hlt => exact ⟨n, List.append_nil _, by omega⟩
    | false =>
      rw [toldAt_failure hcounted, failures_concat_failure]
      split
      next hmet =>
        refine ⟨n + 1, ?_, by omega⟩
        rw [inTurn_succ, if_pos (by omega)]
      next hmiss => exact ⟨n, List.append_nil _, by omega⟩

/-- **A breaker warns once at each transition.**  Whatever the threshold is, as long as it takes a
failure to open the breaker and no run of failures is so long that the count stops: the warnings are
told in turn, offline first; an outcome is told as offline if and only if it brings the failures
behind the last success from below the threshold up to it, and as back online if and only if it is
the first success behind an outcome that was told as offline; and nothing else is logged. -/
theorem warns_at_transitions (host : String) (failTimeout : Duration) (hmax : 1 ≤ maxFails)
    (hcounted : history.Counted) :
    let b := fresh host maxFails failTimeout
    (∃ n, b.told history = inTurn host n) ∧
      ∀ before success time rest, history = before ++ (success, time) :: rest →
        (b.toldAt before success time = [wentOffline host] ↔
          History.failures before < maxFails ∧
            History.failures (before ++ [(success, time)]) = maxFails) ∧
        (b.toldAt before success time = [cameBack host] ↔ success = true ∧
          ∃ earlier t between, before = earlier ++ (false, t) :: between ∧
            b.toldAt earlier false t = [wentOffline host] ∧
              ∀ outcome ∈ between, outcome.1 = false) ∧
        (b.toldAt before success time = [] ∨ b.toldAt before success time = [wentOffline host] ∨
          b.toldAt before success time = [cameBack host]) := by
  intro b
  obtain ⟨n, hn, -⟩ := told_fresh host failTimeout hmax hcounted
  refine ⟨⟨n, hn⟩, ?_⟩
  rintro before success time rest rfl
  rw [← List.singleton_append, ← List.append_assoc] at hcounted
  have hnow := hcounted.of_append
  have hbefore := hnow.of_append
  exact ⟨toldAt_eq_wentOffline_iff hmax hnow, (toldAt_eq_cameBack_iff hnow).trans
    (and_congr_right fun _ => maxFails_le_failures_iff_told hmax hbefore), toldAt_cases hnow⟩

/-- A history shorter than the count is counted. -/
theorem counted_of_length_lt (h : history.length < maxCount) : history.Counted :=
  fun _ hin _ => hin.length_le.trans_lt h

/-- Three failures with a threshold of two, two successes and a failure: the second failure and the
first success are told. -/
theorem warns_at_transitions_probed :
    1 ≤ 2 ∧ History.Counted [(false, 1), (false, 2), (false, 3), (true, 9), (true, 9), (false, 9)] ∧
      (fresh "r" 2 ⟨5⟩).toldAt [(false, 1)] false 2 = [wentOffline "r"] ∧
      (fresh "r" 2 ⟨5⟩).toldAt [(false, 1), (false, 2), (false, 3)] true 9 = [cameBack "r"] ∧
      (fresh "r" 2 ⟨5⟩).told
        [(false, 1), (false, 2), (false, 3), (true, 9), (true, 9), (false, 9)] = inTurn "r" 2 := by
  have hcounted : History.Counted
      [(false, 1), (false, 2), (false, 3), (true, 9), (true, 9), (false, 9)] :=
    counted_of_length_lt (by decide)
  have hmax : 1 ≤ 2 := by decide
  obtain ⟨-, hsays⟩ := warns_at_transitions "r" ⟨5⟩ hmax hcounted
  obtain ⟨hoffline, -, -⟩ := hsays [(false, 1)] false 2 _ rfl
  obtain ⟨-, honline, -⟩ := hsays [(false, 1), (false, 2), (false, 3)] true 9 _ rfl
  exact ⟨hmax, hcounted, hoffline.2 (by decide),
    honline.2 ⟨rfl, [(false, 1)], 2, [(false, 3)], rfl, hoffline.2 (by decide), by decide⟩, rfl⟩

end Breaker

end RegistryProxy
