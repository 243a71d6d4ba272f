import RegistryProxy.Proofs.Store.Commit

/-!
# Proofs/Store/Verdict — what an intake reports is true

As soon as the end of an upload is settled, so is what its intake will report (`Intake.verdict?`),
and that does not change any more (`Run.verdict?`).  A report of success is true (`Run.honest`): the
upload took the end frame, the tarball is all that it took, and the length is right.
-/

namespace RegistryProxy

namespace Intake

variable {t t' : Intake} {h h' : Hand} {report : Report} {tarballs tarballs' : Dict Bytes}
  {stored stored' : Option Bytes} {n : Nat}

/-- **What an intake will report**, or has reported, as soon as that is settled. -/
def verdict? (t : Intake) : Option Report :=
  match t.stage with
  | .receiving => none
  | .storing => some (.ok t.buffer.length)
  | .releasing report | .reporting report => some report
  | .over =>
    match t.upload.backend with
    | .listening => none
    | .gone report => report

/-- **What is settled stays so.** -/
theorem Turn.verdict? (hturn : t.Turn h t' h') (hverdict : t.verdict? = some report) :
    t'.verdict? = some report := by
  cases hturn with
  | stay => exact hverdict
  | moves t' hmoves =>
    cases hmoves with
    | chunk data queue hstage | finish queue hstage | giveUp hstage =>
      simp [Intake.verdict?, hstage] at hverdict
    | report report hstage =>
      simpa [Intake.verdict?, hstage, Upload.settle] using hverdict
  | stored hstage | released report hstage => simpa [Intake.verdict?, hstage] using hverdict
  | act h' u hact => simpa [Intake.verdict?, hact.backend_eq] using hverdict

/-- A report of success is true: the writer has ended, what was stored is all that its upload took,
and the length is right. -/
def Truthful (report : Report) (h : Hand) (stored : Option Bytes) : Prop :=
  ∀ n, report = .ok n →
    h.ended = true ∧ n = h.accepted.flatten.length ∧ stored = some h.accepted.flatten

/-- What the upload took and what was stored stay as they are. -/
theorem Truthful.keeps (htrue : Truthful report h stored)
    (hhand : h.ended = true → h'.accepted = h.accepted ∧ h'.ended = true)
    (hstored : ∀ data, stored = some data → stored' = some data) :
    Truthful report h' stored' := by
  intro n hn
  obtain ⟨hended, hlength, hdata⟩ := htrue n hn
  obtain ⟨haccepted, hended'⟩ := hhand hended
  rw [haccepted]
  exact ⟨hended', hlength, hstored _ hdata⟩

/-- **An intake that tells the truth**, and leaves when it has told it. -/
def Honest (t : Intake) (h : Hand) (tarballs : Dict Bytes) : Prop :=
  match t.stage with
  | .receiving | .storing => t.upload.backend = .listening
  | .releasing report | .reporting report =>
    t.upload.backend = .listening ∧ Truthful report h (tarballs.find? t.name)
  | .over =>
    ∃ report, t.upload.backend = .gone (some report) ∧ Truthful report h (tarballs.find? t.name)

theorem Honest.keeps (hhonest : t.Honest h tarballs) {u : Upload}
    (hbackend : u.backend = t.upload.backend)
    (hhand : h.ended = true → h'.accepted = h.accepted ∧ h'.ended = true)
    (hstored : ∀ data, tarballs.find? t.name = some data → tarballs'.find? t.name = some data) :
    Honest { t with upload := u } h' tarballs' := by
  cases hstage : t.stage with
  | receiving | storing =>
    simp only [Honest, hstage] at hhonest ⊢
    exact hbackend.trans hhonest
  | releasing report | reporting report =>
    simp only [Honest, hstage] at hhonest ⊢
    exact ⟨hbackend.trans hhonest.1, hhonest.2.keeps hhand hstored⟩
  | «over» =>
    simp only [Honest, hstage] at hhonest ⊢
    obtain ⟨report, hgone, htrue⟩ := hhonest
    exact ⟨report, hbackend.trans hgone, htrue.keeps hhand hstored⟩

/-- **No turn makes an intake tell a lie**, if tarballs stay and what it stores gets stored. -/
theorem Turn.honest (hturn : t.Turn h t' h') (hfed : t.Fed h) (hquiet : h.Quiet)
    (hhonest : t.Honest h tarballs)
    (hkeeps : ∀ data, tarballs.find? t.name = some data → tarballs'.find? t.name = some data)
    (hstores : t.stage = .storing → t'.stage ≠ .storing →
      tarballs'.find? t.name = some t.buffer) :
    t'.Honest h' tarballs' := by
  cases hturn with
  | stay => exact hhonest.keeps rfl (fun hended => ⟨rfl, hended⟩) hkeeps
  | act h' u hact => exact hhonest.keeps hact.backend_eq (hact.accepted_eq hquiet) hkeeps
  | moves t' hmoves =>
    cases hmoves with
    | chunk data queue hstage | finish queue hstage =>
      simpa only [Honest, hstage] using hhonest
    | giveUp hstage =>
      simp only [Honest, hstage] at hhonest ⊢
      exact ⟨hhonest, nofun⟩
    | report report hstage =>
      simp only [Honest, hstage] at hhonest ⊢
      exact ⟨report, rfl, hhonest.2.keeps (fun hended => ⟨rfl, hended⟩) hkeeps⟩
  | stored hstage =>
    have hbuffer := hstores hstage nofun
    simp only [Honest, hstage] at hhonest ⊢
    simp only [Fed, hstage] at hfed
    refine ⟨hhonest, ?_⟩
    rintro n ⟨⟩
    exact ⟨hfed.1, by rw [hfed.2], by rw [hbuffer, hfed.2]⟩
  | released report hstage =>
    simp only [Honest, hstage] at hhonest ⊢
    exact ⟨hhonest.1, hhonest.2.keeps (fun hended => ⟨rfl, hended⟩) hkeeps⟩

/-- What the writer is told is what was settled, and it is true. -/
theorem Honest.of_outcome (hhonest : t.Honest h tarballs) (hreported : t.upload.reported = false)
    (houtcome : t.upload.outcome = .ready report) :
    t.verdict? = some report ∧ Truthful report h (tarballs.find? t.name) := by
  rw [Upload.outcome, if_neg (by simp [hreported])] at houtcome
  cases hstage : t.stage with
  | receiving | storing =>
    simp only [Honest, hstage] at hhonest
    simp [hhonest] at houtcome
  | releasing _ | reporting _ =>
    simp only [Honest, hstage] at hhonest
    simp [hhonest.1] at houtcome
  | «over» =>
    simp only [Honest, hstage] at hhonest
    obtain ⟨report', hgone, htrue⟩ := hhonest
    simp only [hgone, Poll.ready.injEq] at houtcome
    subst houtcome
    exact ⟨by simp only [Intake.verdict?, hstage, hgone], htrue⟩

/-- Success is settled only after the end frame. -/
theorem Honest.ended_of_verdict? (hhonest : t.Honest h tarballs) (hfed : t.Fed h)
    (hverdict : t.verdict? = some (.ok n)) : h.ended = true := by
  cases hstage : t.stage with
  | receiving => simp [Intake.verdict?, hstage] at hverdict
  | storing =>
    simp only [Fed, hstage] at hfed
    exact hfed.1
  | releasing report | reporting report =>
    simp only [Honest, hstage] at hhonest
    simp only [Intake.verdict?, hstage, Option.some.injEq] at hverdict
    exact (hhonest.2 n hverdict).1
  | «over» =>
    simp only [Honest, hstage] at hhonest
    obtain ⟨report, hgone, htrue⟩ := hhonest
    simp only [Intake.verdict?, hstage, hgone, Option.some.injEq] at hverdict
    exact (htrue n hverdict).1

end Intake

namespace Traffic

variable {d d₀ d' : Traffic} {i : Nat} {t t' : Intake} {report : Report}

/-- **An intake that goes on from storing has stored.** -/
theorem Step.stores (hstep : Step d d') (hintake : d.store.intakes[i]? = some t)
    (hintake' : d'.store.intakes[i]? = some t') (hstage : t.stage = .storing)
    (hleft : t'.stage ≠ .storing) : d'.store.tarballs.find? t.name = some t.buffer := by
  rcases hstep.intake_cases hintake with ⟨hsame, -⟩ | ⟨u, -, hstore⟩ | ⟨hintaken, -⟩
  · obtain rfl : t' = t := Option.some.inj (hintake'.symm.trans (hsame.trans hintake))
    exact absurd hstage hleft
  · rw [hstore] at hintake'
    obtain rfl := Option.some.inj ((Store.getElem?_setIntake_self hintake).symm.trans hintake')
    exact absurd hstage hleft
  generalize d'.store = s at hintaken hintake'
  cases hintaken with
  | stay =>
    obtain rfl : t' = t := Option.some.inj (hintake'.symm.trans hintake)
    exact absurd hstage hleft
  | store t₁ hintake₁ =>
    obtain rfl : t = t₁ := Option.some.inj (hintake.symm.trans hintake₁)
    exact Dict.find?_insert_self ..
  | move t₁ t₂ hintake₁ hmoves =>
    obtain rfl : t = t₁ := Option.some.inj (hintake.symm.trans hintake₁)
    cases hmoves with
    | chunk _ _ hnot | finish _ hnot | giveUp hnot | report _ hnot =>
      cases hstage.symm.trans hnot
  | release t₁ report hintake₁ hnot =>
    obtain rfl : t = t₁ := Option.some.inj (hintake.symm.trans hintake₁)
    cases hstage.symm.trans hnot

/-- What an intake will report stays so in every run. -/
theorem Run.verdict? (hrun : Run d d') (hintake : d.store.intakes[i]? = some t) :
    ∃ t', d'.store.intakes[i]? = some t' ∧ t'.name = t.name ∧
      ∀ report, t.verdict? = some report → t'.verdict? = some report := by
  induction hrun with
  | refl => exact ⟨t, hintake, rfl, fun _ => id⟩
  | tail _ hstep ih =>
    obtain ⟨t₁, hintake₁, hname, hverdict⟩ := ih
    obtain ⟨t', hintake', hturn⟩ := hstep.turn hintake₁
    exact ⟨t', hintake', hturn.name_eq.trans hname,
      fun report h => hturn.verdict? (hverdict report h)⟩

/-- **Every intake tells the truth**, in every run. -/
theorem Run.honest (h : d₀.Begins) (hrun : Run d₀ d) (hintake : d.store.intakes[i]? = some t) :
    t.Honest (d.hands i) d.store.tarballs := by
  induction hrun generalizing t with
  | refl => simp [h.empty] at hintake
  | @tail d d' hrun hstep ih =>
    have hsound : Sound d₀ d := h.sound.run hrun
    cases hbefore : d.store.intakes[i]? with
    | none =>
      obtain ⟨ht, -⟩ := hstep.born hbefore hintake
      rw [ht]
      exact rfl
    | some t₀ =>
      obtain ⟨t', hintake', hturn⟩ := hstep.turn hbefore
      obtain rfl : t' = t := Option.some.inj (hintake'.symm.trans hintake)
      obtain ⟨hfed, hquiet⟩ := hsound.fed i t₀ hbefore
      exact hturn.honest hfed hquiet (ih hbefore) (fun data => hsound.find?_step hstep)
        (hstep.stores hbefore hintake)

end Traffic

end RegistryProxy
