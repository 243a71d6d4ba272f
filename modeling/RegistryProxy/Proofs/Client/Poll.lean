import RegistryProxy.Proofs.Client.Outlook
import Mathlib.Logic.Function.Iterate

/-!
# Proofs/Client/Poll — asking a call is a number of its turns

Whoever asks a call has it take steps until it is over or has to wait.  It is given as many steps as
its patience allows, and that is always enough: with every step after which it goes on, fewer are
left (`stepsLeft_step`).  So asking it is a number of turns in which nothing else happens
(`poll_eq_turns`).
-/

namespace RegistryProxy

open Client (World)

namespace MetadataCall

variable {c : MetadataCall} {w : World}

/-! ## How many steps are left -/

/-- How many parts the body of an answer has. -/
def partsOf : Except Failure Response → Nat
  | .ok r => r.body.length
  | .error _ => 0

/-- How many steps a call takes before it waits, at most. -/
def stepsLeft (c : MetadataCall) (w : World) : Nat :=
  match c.stage with
  | .start => partsOf (w.network.answers w.network.sent.length).answer + 5
  | .asking _ => partsOf (w.network.answers w.network.sent.length).answer + 4
  | .sending x => partsOf x.answer + 3
  | .reading _ rest _ => rest.length + 2
  | .over _ => 1

theorem stepsLeft_le_patience (c : MetadataCall) (w : World) : c.stepsLeft w ≤ c.patience w := by
  rw [stepsLeft, patience]
  cases c.stage with
  | start | asking | sending => exact Nat.add_le_add_left (by decide) _
  | reading | _ => dsimp only; omega

theorem partsOf_send (w : World) (request : Request) :
    partsOf (w.send request).1.answer ≤
      partsOf (w.network.answers w.network.sent.length).answer := by
  change partsOf (w.network.send request).1.answer ≤ _
  rw [Network.send]
  split
  · exact Nat.le_refl _
  · exact Nat.zero_le _

theorem stepsLeft_answered (c : MetadataCall) (url : String) (w : World)
    (content : Except Failure Response) :
    stepsLeft (c.answered url w content).2.1 (c.answered url w content).2.2 <
      partsOf content + 3 := by
  cases content with
  | error failure => exact Nat.le_add_left ..
  | ok r =>
    rw [answered]
    split
    · change (r.body.map _).length + 2 < r.body.length + 3
      rw [List.length_map]
      exact Nat.lt_succ_self _
    · exact Nat.le_add_left ..

theorem stepsLeft_read {etag : Option String} {rest : Body} {collected : Bytes}
    (hgoOn : (c.read etag rest collected w).1 = .goOn) :
    stepsLeft (c.read etag rest collected w).2.1 (c.read etag rest collected w).2.2 <
      rest.length + 2 := by
  cases rest with
  | nil => exact Nat.le_refl 2
  | cons part rest =>
    cases part with
    | chunk => exact Nat.lt_succ_self _
    | fault => exact Nat.le_add_left ..
    | wait | stall => cases hgoOn

/-- A call under way that was given up has one step left. -/
theorem stepsLeft_of_cancelled {k : Nat} (hcancelled : c.cancelled = true)
    (hstart : c.stage ≠ .start) (hover : ∀ result, c.stage ≠ .over result)
    (hleft : c.stepsLeft w = k + 2) :
    stepsLeft (c.step w).2.1 (c.step w).2.2 < c.stepsLeft w := by
  rw [step_of_cancelled hcancelled hstart hover, hleft]
  exact Nat.le_add_left 2 k

/-- **With every step after which a call goes on**, fewer are left. -/
theorem stepsLeft_step (hgoOn : (c.step w).1 = .goOn) :
    stepsLeft (c.step w).2.1 (c.step w).2.2 < c.stepsLeft w := by
  cases hstage : c.stage with
  | start =>
    have hleft : c.stepsLeft w = partsOf (w.network.answers w.network.sent.length).answer + 5 := by
      rw [stepsLeft, hstage]
    rw [step_of_start hstage, stepsLeft, prepare_stage, (c.prepare_cases w).1.network_eq, hleft]
    cases c.draft w with
    | error e => exact Nat.le_add_left ..
    | ok request => exact Nat.lt_succ_self _
  | asking request =>
    have hleft : c.stepsLeft w = partsOf (w.network.answers w.network.sent.length).answer + 4 := by
      rw [stepsLeft, hstage]
    cases hcancelled : c.cancelled with
    | true => exact stepsLeft_of_cancelled hcancelled (by simp [hstage]) (by simp [hstage]) hleft
    | false =>
      rw [step_of_asking hstage hcancelled, hleft]
      exact Nat.lt_succ_of_le (Nat.add_le_add_right (partsOf_send w request) 3)
  | sending x =>
    have hleft : c.stepsLeft w = partsOf x.answer + 3 := by rw [stepsLeft, hstage]
    cases hcancelled : c.cancelled with
    | true => exact stepsLeft_of_cancelled hcancelled (by simp [hstage]) (by simp [hstage]) hleft
    | false =>
      obtain ⟨waits, answer⟩ := x
      match waits with
      | none | some (k + 1) =>
        rw [step_of_pending hstage hcancelled rfl] at hgoOn
        cases hgoOn
      | some 0 =>
        rw [step_of_ready hstage hcancelled rfl, hleft]
        exact stepsLeft_answered ..
  | reading etag rest collected =>
    have hleft : c.stepsLeft w = rest.length + 2 := by rw [stepsLeft, hstage]
    cases hcancelled : c.cancelled with
    | true => exact stepsLeft_of_cancelled hcancelled (by simp [hstage]) (by simp [hstage]) hleft
    | false =>
      rw [step_of_reading hstage hcancelled] at hgoOn ⊢
      rw [hleft]
      exact stepsLeft_read hgoOn
  | _ result =>
    rw [step_of_over hstage] at hgoOn
    cases hgoOn

/-! ## Asking a call -/

/-- One step, and what is there afterwards. -/
def advance (s : MetadataCall × World) : MetadataCall × World := (s.1.step s.2).2

/-- **How asking a call ends**, after a number of steps: it is over, or the next step waits. -/
inductive Rests (c : MetadataCall) (w : World) :
    Poll (Except Error RemoteMetadata) × MetadataCall × World → Prop
  | finished (n : Nat) (result : Except Error RemoteMetadata)
    (stage : (advance^[n] (c, w)).1.stage = .over result) :
    Rests c w (.ready result, advance^[n] (c, w))
  | waits (n : Nat)
    (waits : ((advance^[n] (c, w)).1.step (advance^[n] (c, w)).2).1 = .wait) :
    Rests c w (.pending, advance^[n + 1] (c, w))

theorem Rests.of_advance {answer : Poll (Except Error RemoteMetadata) × MetadataCall × World}
    (h : Rests (advance (c, w)).1 (advance (c, w)).2 answer) : Rests c w answer := by
  cases h with
  | finished n result hstage => exact .finished (n + 1) result hstage
  | waits n hwaits => exact .waits (n + 1) hwaits

/-- A call that is not over goes on or waits. -/
theorem over_or_goOn_or_wait (c : MetadataCall) (w : World) :
    (∃ result, c.stage = .over result) ∨ (c.step w).1 = .goOn ∨ (c.step w).1 = .wait := by
  rw [step]
  split
  · refine .inr (.inl ?_)
    rw [prepare]
    split
    · rfl
    · split
      · rfl
      · split <;> rfl
  · split <;> exact .inr (.inl rfl)
  · split
    · exact .inr (.inl rfl)
    · split
      · exact .inr (.inr rfl)
      · refine .inr (.inl ?_)
        rw [answered.eq_def]
        split
        · rfl
        · split <;> rfl
  · split
    · exact .inr (.inl rfl)
    · rw [read]
      split
      · exact .inr (.inr rfl)
      · exact .inr (.inl rfl)
      · exact .inr (.inl rfl)
      · exact .inr (.inl rfl)
  · next result hstage => exact .inl ⟨result, hstage⟩

/-- **Patience is enough**: a call is asked until it is over or waits. -/
theorem rests_run {fuel : Nat} (hfuel : c.stepsLeft w ≤ fuel) : Rests c w (run fuel c w) := by
  induction fuel generalizing c w with
  | zero =>
    rw [stepsLeft] at hfuel
    split at hfuel <;> omega
  | succ fuel ih =>
    rw [run]
    obtain ⟨result, hstage⟩ | hgoOn | hwait := c.over_or_goOn_or_wait w
    · rw [step_of_over hstage]
      exact .finished 0 result hstage
    · have hleft := stepsLeft_step hgoOn
      have hrests := ih (c := (c.step w).2.1) (w := (c.step w).2.2) (by omega)
      have hstep : c.step w = (.goOn, (c.step w).2) := Prod.ext hgoOn rfl
      rw [hstep]
      exact .of_advance hrests
    · have hstep : c.step w = (.wait, (c.step w).2) := Prod.ext hwait rfl
      rw [hstep]
      exact .waits 0 hwait

theorem rests_poll (c : MetadataCall) (w : World) : Rests c w (c.poll w) :=
  rests_run (c.stepsLeft_le_patience w)

theorem inTurn_eq_self (c : MetadataCall) (n : Nat) :
    c.inTurn (if c.cancelled then some 0 else none) n = c := by
  obtain ⟨name, etag, headers, peer, cancelled, stage⟩ := c
  cases cancelled <;> simp [inTurn]

/-- The steps of a call are its turns while nothing else happens. -/
theorem after_eq_advance (c : MetadataCall) (w : World) (n : Nat) :
    c.after w (if c.cancelled then some 0 else none) (fun _ w => w) n = advance^[n] (c, w) ∧
      (advance^[n] (c, w)).1.cancelled = c.cancelled := by
  induction n with
  | zero => exact ⟨rfl, rfl⟩
  | succ n ih =>
    obtain ⟨hafter, hcancelled⟩ := ih
    rw [Function.iterate_succ_apply', after, hafter]
    refine ⟨?_, (step_keeps _ _).2.1.trans hcancelled⟩
    dsimp only
    rw [← hcancelled, inTurn_eq_self]
    rfl

/-- **Asking a call is a number of its turns while nothing else happens**, and always enough of
them: afterwards it is over with the result, or its last turn has had to wait. -/
theorem poll_eq_turns (c : MetadataCall) (w : World) :
    ∃ n, (c.poll w).2 = c.after w (if c.cancelled then some 0 else none) (fun _ w => w) n ∧
      match (c.poll w).1 with
      | .ready result => (c.poll w).2.1.stage = .over result
      | .pending => ∃ k, n = k + 1 ∧
        ((advance^[k] (c, w)).1.step (advance^[k] (c, w)).2).1 = .wait := by
  have hrests := c.rests_poll w
  generalize c.poll w = answer at hrests ⊢
  cases hrests with
  | finished n result hstage => exact ⟨n, (c.after_eq_advance w n).1.symm, hstage⟩
  | waits n hwaits => exact ⟨n + 1, (c.after_eq_advance w (n + 1)).1.symm, n, rfl, hwaits⟩

end MetadataCall
end RegistryProxy
