import Mathlib.Logic.Relation
import RegistryProxy.Proofs.Transfer.Hand
import RegistryProxy.Store.Tarballs

/-!
# Proofs/Store/Intake — what an intake does

`Intaken` says once what the next thing of an intake can be.  What an intake has, of what its writer
brought up, is `Fed`: while it receives, its buffer and the queue are what the upload took, and it
goes on to store only after the end frame, with all of it.
-/

namespace RegistryProxy

namespace Intake

variable {t t' : Intake} {h h' : Hand} {u : Upload}

/-- The name that an intake has claimed and not given free. -/
def claim? (t : Intake) : Option String :=
  match t.stage with
  | .receiving | .storing | .releasing _ => some t.name
  | .reporting _ | .over => none

/-- The name that an intake may yet store a tarball under. -/
def target? (t : Intake) : Option String :=
  match t.stage with
  | .receiving | .storing => some t.name
  | .releasing _ | .reporting _ | .over => none

/-- The name that it may store under is one that it has claimed. -/
theorem claim?_of_target? {name : String} (h : t.target? = some name) : t.claim? = some name := by
  rw [target?] at h
  rw [claim?]
  split at h <;> simp_all

/-- What an intake has, of what its writer brought up. -/
def Fed (t : Intake) (h : Hand) : Prop :=
  match t.stage with
  | .receiving => h.Sends t.upload t.buffer
  | .storing => h.ended = true ∧ t.buffer = h.accepted.flatten
  | _ => True

/-- **What an intake can do by itself.** -/
inductive Moves (t : Intake) : Intake → Prop
  | chunk (data : Bytes) (queue : List Frame) (stage : t.stage = .receiving)
    (front : t.upload.queue = .chunk data :: queue) :
    Moves t { t with
      upload := { t.upload with queue, received := t.upload.received + data.length }
      buffer := t.buffer ++ data }
  | finish (queue : List Frame) (stage : t.stage = .receiving)
    (front : t.upload.queue = .finish :: queue) (cancelled : t.upload.cancelled = false) :
    Moves t { t with upload := { t.upload with queue }, stage := .storing }
  | giveUp (stage : t.stage = .receiving) :
    Moves t { t with stage := .releasing (.error Store.transmissionAborted) }
  | report (report : Report) (stage : t.stage = .reporting report) :
    Moves t { t with upload := t.upload.settle report, stage := .over }

theorem Moves.name_eq (hmoves : t.Moves t') : t'.name = t.name := by cases hmoves <;> rfl

/-- By itself an intake neither claims a name nor gives one free. -/
theorem Moves.claim?_eq (hmoves : t.Moves t') : t'.claim? = t.claim? := by
  cases hmoves with
  | chunk data queue hstage | finish queue hstage | giveUp hstage | report report hstage =>
    simp [claim?, hstage]

/-- An intake does not read the report of its upload. -/
theorem Moves.reported_eq (hmoves : t.Moves t') : t'.upload.reported = t.upload.reported := by
  cases hmoves <;> rfl

/-- An intake that gave up storing does not come back to it. -/
theorem Moves.target? {name : String} (hmoves : t.Moves t') (htarget : t'.target? = some name) :
    t.target? = some name := by
  cases hmoves with
  | chunk data queue hstage | finish queue hstage =>
    simpa [Intake.target?, hstage] using htarget
  | giveUp hstage | report report hstage => cases htarget

/-- A chunk goes from the queue to the buffer, and the end frame is behind all of them. -/
theorem Moves.fed (hmoves : t.Moves t') (hfed : t.Fed h) : t'.Fed h := by
  cases hmoves with
  | chunk data queue hstage hfront =>
    simp only [Fed, hstage] at hfed ⊢
    obtain ⟨chunks, hqueue, haccepted⟩ := hfed
    obtain ⟨rest, rfl, rfl⟩ := Upload.frames_eq_chunk_cons (hqueue.symm.trans hfront)
    exact ⟨rest, rfl, by rw [← haccepted, List.flatten_cons, List.append_assoc]⟩
  | finish queue hstage hfront =>
    simp only [Fed, hstage] at hfed ⊢
    obtain ⟨chunks, hqueue, haccepted⟩ := hfed
    obtain ⟨rfl, hended⟩ := Upload.frames_eq_finish_cons (hqueue.symm.trans hfront)
    exact ⟨hended, by rw [← haccepted, List.flatten_nil, List.append_nil]⟩
  | giveUp hstage | report report hstage => trivial

/-- What the writer does is in the queue. -/
theorem Fed.act (hfed : t.Fed h) (hquiet : h.Quiet) (hact : h.Act t.upload h' u) :
    Fed { t with upload := u } h' := by
  cases hstage : t.stage with
  | receiving =>
    simp only [Fed, hstage] at hfed ⊢
    exact hact.sends hquiet hfed
  | storing =>
    simp only [Fed, hstage] at hfed ⊢
    obtain ⟨haccepted, hended⟩ := hact.accepted_eq hquiet hfed.1
    exact ⟨hended, by rw [haccepted, hfed.2]⟩
  | _ => simp only [Fed]

/-- **What a step of a run can do to one intake and its writer.** -/
inductive Turn (t : Intake) (h : Hand) : Intake → Hand → Prop
  | stay : Turn t h t h
  | moves (t' : Intake) (moves : t.Moves t') : Turn t h t' h
  | stored (stage : t.stage = .storing) :
    Turn t h { t with stage := .releasing (.ok t.buffer.length) } h
  | released (report : Report) (stage : t.stage = .releasing report) :
    Turn t h { t with stage := .reporting report } h
  | act (h' : Hand) (u : Upload) (act : h.Act t.upload h' u) : Turn t h { t with upload := u } h'

namespace Turn

theorem name_eq (hturn : t.Turn h t' h') : t'.name = t.name := by
  cases hturn with
  | moves t' hmoves => exact hmoves.name_eq
  | stay | stored | released | act => rfl

/-- An intake that stored, or gave up, will not store again. -/
theorem target? {name : String} (hturn : t.Turn h t' h') (htarget : t'.target? = some name) :
    t.target? = some name := by
  cases hturn with
  | moves t' hmoves => exact hmoves.target? htarget
  | stay | act => exact htarget
  | stored | released => cases htarget

/-- **An intake has what its upload took**, whatever happens to the one or the other. -/
theorem fed (hturn : t.Turn h t' h') (hfed : t.Fed h) (hquiet : h.Quiet) :
    t'.Fed h' ∧ h'.Quiet := by
  cases hturn with
  | stay => exact ⟨hfed, hquiet⟩
  | moves t' hmoves => exact ⟨hmoves.fed hfed, hquiet⟩
  | stored | released => exact ⟨trivial, hquiet⟩
  | act h' u hact => exact ⟨hfed.act hquiet hact, hact.quiet hquiet⟩

/-- What an upload took with the end frame is settled. -/
theorem accepted_eq (hturn : t.Turn h t' h') (hquiet : h.Quiet) (hended : h.ended = true) :
    h'.accepted = h.accepted ∧ h'.ended = true := by
  cases hturn with
  | stay | moves | stored | released => exact ⟨rfl, hended⟩
  | act h' u hact => exact hact.accepted_eq hquiet hended

end Turn

end Intake

namespace Store

variable {s s' : Store} {i j : Nat} {t t' : Intake}

/-- **What one thing that an intake of a store does can be.** -/
inductive Intaken (s : Store) (i : Nat) : Store → Prop
  | stay : Intaken s i s
  | move (t t' : Intake) (intake : s.intakes[i]? = some t) (moves : t.Moves t') :
    Intaken s i (s.setIntake i t')
  | store (t : Intake) (intake : s.intakes[i]? = some t) (stage : t.stage = .storing) :
    Intaken s i ({ s with tarballs := s.tarballs.insert t.name t.buffer }.setIntake i
      { t with stage := .releasing (.ok t.buffer.length) })
  | release (t : Intake) (report : Report) (intake : s.intakes[i]? = some t)
    (stage : t.stage = .releasing report) :
    Intaken s i ((s.unclaim t.name).setIntake i { t with stage := .reporting report })

theorem setIntake_self (h : s.intakes[i]? = some t) : s.setIntake i t = s := by
  obtain ⟨hi, rfl⟩ := List.getElem?_eq_some_iff.1 h
  simp [setIntake]

/-- **One thing that an intake does is one of these**, whatever it finds in its queue. -/
theorem intaken_intakeStep (s : Store) (i : Nat) : s.Intaken i (s.intakeStep i).2.1 := by
  rw [intakeStep]
  split
  · exact .stay
  · next t ht =>
    split
    · next hstage =>
      have hreceived := t.upload.received_receive
      rw [receive]
      generalize t.upload.receive = x at hreceived
      obtain ⟨event, upload⟩ := x
      cases hreceived with
      | nothing =>
        have hstay : s.Intaken i (s.setIntake i t) := by
          rw [setIntake_self ht]
          exact .stay
        exact hstay
      | chunk data queue hfront => exact .move t _ ht (.chunk data queue hstage hfront)
      | finished queue hfront hcancelled =>
        exact .move t _ ht (.finish queue hstage hfront hcancelled)
      | aborted => exact .move t _ ht (.giveUp hstage)
    · next hstage => exact .store t ht hstage
    · next report hstage => exact .release t report ht hstage
    · next report hstage => exact .move t _ ht (.report report hstage)
    · exact .stay

/-- What the intakes of a store can do, one thing after the other. -/
abbrev Works : Store → Store → Prop :=
  Relation.ReflTransGen fun s s' => ∃ i, s' = (s.intakeStep i).2.1

/-- An intake that is run as far as it comes does one thing after the other. -/
theorem works_runIntake (i fuel : Nat) (s : Store) (log : Log) :
    Works s (runIntake i fuel s log).1 := by
  induction fuel generalizing s log with
  | zero => exact .refl
  | succ fuel ih =>
    rw [runIntake]
    have hstep : Works s (s.intakeStep i).2.1 := .single ⟨i, rfl⟩
    split
    · next s' more hgo =>
      rw [hgo] at hstep
      exact hstep.trans (ih s' _)
    · next s' more hstop =>
      rw [hstop] at hstep
      exact hstep

/-- **A store that settles** lets its intakes do one thing after the other. -/
theorem works_settle (s : Store) : Works s s.settle.1 := by
  have hfold : ∀ (is : List Nat) (s : Store) (log : Log), Works s
      (is.foldl (fun x i => runIntake i (x.1.backlog i) x.1 x.2) (s, log)).1 := by
    intro is
    induction is with
    | nil => exact fun _ _ => .refl
    | cons i is ih => exact fun s log => (works_runIntake i (s.backlog i) s log).trans (ih _ _)
  exact hfold _ s []

theorem getElem?_setIntake_self (h : s.intakes[i]? = some t) :
    (s.setIntake i t').intakes[i]? = some t' := by
  obtain ⟨hi, -⟩ := List.getElem?_eq_some_iff.1 h
  exact List.getElem?_set_self hi

/-- No intake reads the report of an upload. -/
theorem Intaken.reported_eq (hintaken : s.Intaken i s') (hintake : s.intakes[i]? = some t)
    (hintake' : s'.intakes[i]? = some t') : t'.upload.reported = t.upload.reported := by
  cases hintaken with
  | stay =>
    obtain rfl := Option.some.inj (hintake.symm.trans hintake')
    rfl
  | move t₁ t₂ hintake₁ hmoves =>
    obtain rfl := Option.some.inj (hintake.symm.trans hintake₁)
    obtain rfl := Option.some.inj ((getElem?_setIntake_self hintake).symm.trans hintake')
    exact hmoves.reported_eq
  | store t₁ hintake₁ hstage | release t₁ report hintake₁ hstage =>
    obtain rfl := Option.some.inj (hintake.symm.trans hintake₁)
    obtain rfl := Option.some.inj ((getElem?_setIntake_self hintake).symm.trans hintake')
    rfl

end Store

end RegistryProxy
