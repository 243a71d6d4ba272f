import RegistryProxy.Proofs.Store.Commit

/-!
# Proofs/Store/Reservation — names of tarballs on their way

A name is claimed in one place and given free in three: by the call that finds the tarball there,
and by the intake, with the tarball stored or without.  While no call is on its way, the claimed
names are exactly those of the intakes that have not let go, and so a tarball can be opened for
writing if and only if it is not there and no intake holds its name (`names_reserved`).

An intake whose upload was given up stores nothing any more (`Intake.Barren`), and every go brings
it nearer to letting go of its name (`Intake.left`), which is free from then on (`Lost.isFree`).
-/

namespace RegistryProxy

/-! ## Opening a tarball for writing -/

namespace Store

variable {s : Store} {name : String}

/-- A name that nobody claims and no tarball has. -/
def IsFree (s : Store) (name : String) : Prop := name ∉ s.claimed ∧ s.hasTarball name = false

theorem hasTarball_eq_false_iff : s.hasTarball name = false ↔ s.tarballs.find? name = none := by
  rw [hasTarball, Dict.contains, Option.isSome_eq_false_iff, Option.isNone_iff_eq_none]

theorem claim_of_notMem (h : name ∉ s.claimed) :
    s.claim name = .ok { s with claimed := name :: s.claimed } := by
  rw [claim, if_neg (by simpa using h)]

/-- A claim that is taken back leaves nothing behind. -/
theorem unclaim_claim (h : name ∉ s.claimed) :
    unclaim { s with claimed := name :: s.claimed } name = s := by
  have hothers : s.claimed.filter (fun n => n != name) = s.claimed :=
    List.filter_eq_self.2 fun n hn => bne_iff_ne.2 (ne_of_mem_of_not_mem hn h)
  rw [unclaim, List.filter_cons_of_neg (by simp), hothers]

/-- **A free name is claimed**, and gets an intake. -/
theorem openWrite_of_isFree (h : s.IsFree name) :
    s.openWrite name = (.ok s.intakes.length,
      { s with claimed := name :: s.claimed, intakes := s.intakes ++ [{ name }] }) := by
  have htarball : hasTarball { s with claimed := name :: s.claimed } name = false := h.2
  rw [openWrite, claim_of_notMem h.1]
  simp only [startIntake, htarball]
  rfl

/-- **A name that is not free** is refused, and nothing changes. -/
theorem openWrite_of_not_isFree (h : ¬ s.IsFree name) :
    s.openWrite name = (.error (.conflict name), s) := by
  by_cases hclaimed : name ∈ s.claimed
  · rw [openWrite, claim, if_pos (by simpa using hclaimed)]
  · have htarball : hasTarball { s with claimed := name :: s.claimed } name = true := by
      change s.hasTarball name = true
      simpa [IsFree, hclaimed] using h
    rw [openWrite, claim_of_notMem hclaimed]
    simp only [startIntake, htarball, if_true, unclaim_claim hclaimed]

theorem openWrite_ok_iff : (∃ i s', s.openWrite name = (.ok i, s')) ↔ s.IsFree name := by
  refine ⟨?_, fun h => ⟨_, _, openWrite_of_isFree h⟩⟩
  rintro ⟨i, s', hopen⟩
  by_contra h
  rw [openWrite_of_not_isFree h] at hopen
  cases hopen

end Store

/-! ## An intake that stores nothing -/

namespace Intake

variable {t t' : Intake} {h h' : Hand} {s : Store} {i : Nat} {name : String}

/-- The upload of an intake knows whether there is a writer that may send. -/
def Attended (t : Intake) (h : Hand) : Prop := t.upload.writer = true ↔ h.next? = some .sending

/-- **An upload that was given up** while its intake received.  An intake that has the end frame
stores the tarball all the same. -/
def GivenUp (t : Intake) (h : Hand) : Prop := t.stage = .receiving ∧ h.Abandons t.upload

/-- An intake that stores nothing any more. -/
def Barren (t : Intake) (h : Hand) : Prop :=
  match t.stage with
  | .receiving => h.Abandons t.upload
  | .storing => False
  | .releasing _ | .reporting _ | .over => True

/-- How many goes a barren intake takes, at most, to let go of its name. -/
def left (t : Intake) : Nat :=
  match t.stage with
  | .receiving => t.upload.queue.length + 2
  | .releasing _ => 1
  | .storing | .reporting _ | .over => 0

theorem GivenUp.barren (hgiven : t.GivenUp h) : t.Barren h := by
  rw [Barren, hgiven.1]
  exact hgiven.2

theorem GivenUp.left_eq (hgiven : t.GivenUp h) : t.left = t.upload.queue.length + 2 := by
  rw [left, hgiven.1]

theorem Barren.left_pos (hbarren : t.Barren h) (hclaim : t.claim? = some name) : 0 < t.left := by
  cases hstage : t.stage with
  | receiving | releasing report => simp [left, hstage]
  | storing => simp [Barren, hstage] at hbarren
  | reporting report | «over» => simp [claim?, hstage] at hclaim

namespace Turn

theorem attended (hturn : t.Turn h t' h') (hattended : t.Attended h) : t'.Attended h' := by
  cases hturn with
  | stay | stored | released => exact hattended
  | moves t' hmoves => cases hmoves <;> exact hattended
  | act h' u hact => exact hact.attended hattended

/-- A claim is made before the intake is there, and given back once. -/
theorem claim? (hturn : t.Turn h t' h') (hclaim : t'.claim? = some name) :
    t.claim? = some name := by
  cases hturn with
  | stay | act => exact hclaim
  | moves t' hmoves => exact hmoves.claim?_eq ▸ hclaim
  | stored hstage =>
    rw [Intake.claim?, hstage]
    exact hclaim
  | released => cases hclaim

/-- **Nothing makes a barren intake store**, and nothing keeps it longer: its writer sends nothing
any more, and what is on its way has no end frame. -/
theorem barren (hturn : t.Turn h t' h') (hbarren : t.Barren h) (hattended : t.Attended h)
    (hfed : t.Fed h) : t'.Barren h' ∧ t'.left ≤ t.left := by
  cases hturn with
  | stay => exact ⟨hbarren, Nat.le_refl _⟩
  | stored hstage => simp [Barren, hstage] at hbarren
  | released report hstage => exact ⟨trivial, Nat.zero_le _⟩
  | moves t' hmoves =>
    cases hmoves with
    | chunk data queue hstage hfront =>
      simp only [Barren, hstage] at hbarren ⊢
      exact ⟨hbarren, by simp [left, hstage, hfront]⟩
    | finish queue hstage hfront hcancelled =>
      simp only [Barren, hstage] at hbarren
      simp only [Fed, hstage] at hfed
      obtain ⟨chunks, hqueue, -⟩ := hfed
      obtain ⟨-, hended⟩ := Upload.frames_eq_finish_cons (hqueue.symm.trans hfront)
      simp [Hand.Abandons, hcancelled, hended] at hbarren
    | giveUp hstage => exact ⟨trivial, by simp [left, hstage]⟩
    | report report hstage => exact ⟨trivial, Nat.zero_le _⟩
  | act h' u hact =>
    cases hstage : t.stage with
    | storing => simp [Barren, hstage] at hbarren
    | releasing report | reporting report | «over» =>
      exact ⟨by simp only [Barren], by simp only [left, hstage, Nat.le_refl]⟩
    | receiving =>
      simp only [Barren, hstage] at hbarren
      obtain ⟨habandons, hqueue⟩ := hact.abandons hbarren hattended
      simp only [Barren, left, hstage, hqueue, Nat.le_refl, and_true]
      exact habandons

end Turn

/-- **Every go of a barren intake brings it nearer** to letting go of its name. -/
theorem Barren.left_intakeStep (hbarren : t.Barren h) (hclaim : t.claim? = some name)
    (hintake : s.intakes[i]? = some t) :
    ∃ t', (s.intakeStep i).2.1.intakes[i]? = some t' ∧ t'.left < t.left := by
  cases hstage : t.stage with
  | storing => simp [Barren, hstage] at hbarren
  | reporting report | «over» => simp [Intake.claim?, hstage] at hclaim
  | releasing report =>
    have hgo : (s.intakeStep i).2.1 =
        (s.unclaim t.name).setIntake i { t with stage := .reporting report } := by
      simp only [Store.intakeStep, hintake, hstage]
    rw [hgo]
    exact ⟨_, Store.getElem?_setIntake_self hintake, by simp [left, hstage]⟩
  | receiving =>
    have hgo : (s.intakeStep i).2.1 = (s.receive i t).2 := by
      simp only [Store.intakeStep, hintake, hstage]
    simp only [Barren, hstage] at hbarren
    have hevent := hbarren.receive_ne_pending
    have hreceived := t.upload.received_receive
    rw [hgo, Store.receive]
    generalize t.upload.receive = x at hevent hreceived
    obtain ⟨event, u⟩ := x
    cases hreceived with
    | nothing => exact absurd rfl hevent
    | chunk data queue hfront =>
      exact ⟨_, Store.getElem?_setIntake_self hintake, by simp [left, hstage, hfront]⟩
    | finished | aborted =>
      exact ⟨_, Store.getElem?_setIntake_self hintake, by simp [left, hstage]⟩

end Intake

/-! ## Who lets go of a name -/

namespace Traffic

variable {d d₀ d' : Traffic} {i j n : Nat} {name : String} {t : Intake}

/-- No call is on its way to open a tarball. -/
def Idle (d : Traffic) : Prop := ∀ k, d.calls k = none

theorem Run.attended (h : d₀.Begins) (hrun : Run d₀ d) (hintake : d.store.intakes[i]? = some t) :
    t.Attended (d.hands i) := by
  induction hrun generalizing t with
  | refl => simp [h.empty] at hintake
  | @tail d d' hrun hstep ih =>
    cases hbefore : d.store.intakes[i]? with
    | none =>
      obtain ⟨ht, hhand, -⟩ := hstep.born hbefore hintake
      rw [ht, hhand]
      exact iff_of_true rfl rfl
    | some t₀ =>
      obtain ⟨t', hintake', hturn⟩ := hstep.turn hbefore
      obtain rfl : t' = t := Option.some.inj (hintake'.symm.trans hintake)
      exact hturn.attended (ih hbefore)

/-- **An intake lets go of its name in one way**: the claim is gone, and the tarballs are as they
were. -/
theorem Step.lets_go (hstep : Step d d') (hheld : d.holder (.inr i) = some name)
    (hgone : d'.holder (.inr i) ≠ some name) :
    name ∉ d'.store.claimed ∧ d'.store.tarballs = d.store.tarballs := by
  obtain ⟨t, hintake, hclaim⟩ := Option.bind_eq_some_iff.1 hheld
  have hkept : ∀ t' : Intake, d'.store.intakes[i]? = some t' → t'.claim? ≠ t.claim? := by
    intro t' hintake' hsame
    exact hgone (Option.bind_eq_some_iff.2 ⟨t', hintake', hsame.trans hclaim⟩)
  rcases hstep.intake_cases hintake with ⟨hsame, -⟩ | ⟨u, -, hstore⟩ | ⟨hintaken, -⟩
  · exact absurd rfl (hkept t (hsame.trans hintake))
  · refine absurd rfl (hkept { t with upload := u } ?_)
    rw [hstore]
    exact Store.getElem?_setIntake_self hintake
  generalize d'.store = s at hintaken hkept ⊢
  cases hintaken with
  | stay => exact absurd rfl (hkept t hintake)
  | move t₁ t' hintake₁ hmoves =>
    obtain rfl : t = t₁ := Option.some.inj (hintake.symm.trans hintake₁)
    exact absurd hmoves.claim?_eq (hkept t' (Store.getElem?_setIntake_self hintake))
  | store t₁ hintake₁ hstage =>
    obtain rfl : t = t₁ := Option.some.inj (hintake.symm.trans hintake₁)
    refine absurd ?_ (hkept _ (Store.getElem?_setIntake_self (s := { d.store with .. }) hintake))
    simp only [Intake.claim?, hstage]
  | release t₁ report hintake₁ hstage =>
    obtain rfl : t = t₁ := Option.some.inj (hintake.symm.trans hintake₁)
    obtain rfl : t.name = name := by simpa [Intake.claim?, hstage] using hclaim
    exact ⟨by simp [Store.setIntake, Store.unclaim], rfl⟩

/-- **An intake that stores nothing any more**: while it holds its name, no tarball is there. -/
structure Lost (d : Traffic) (i : Nat) (t : Intake) : Prop where
  /-- The intake is there. -/
  intake : d.store.intakes[i]? = some t
  /-- It stores nothing. -/
  barren : t.Barren (d.hands i)
  /-- Nobody else stores under its name. -/
  vacant : ∀ name, t.claim? = some name → d.store.tarballs.find? name = none

namespace Lost

theorem of_givenUp (hsound : Sound d₀ d) (hintake : d.store.intakes[i]? = some t)
    (hgiven : t.GivenUp (d.hands i)) : Lost d i t where
  intake := hintake
  barren := hgiven.barren
  vacant name hclaim := by
    refine hsound.vacant (.inr i) name ?_
    rw [target, hintake, Option.bind_some, Intake.target?, hgiven.1]
    simpa only [Intake.claim?, hgiven.1] using hclaim

theorem step (h : Lost d i t) (hsound : Sound d₀ d) (hattended : t.Attended (d.hands i))
    (hstep : Step d d') :
    ∃ t', Lost d' i t' ∧ t'.left ≤ t.left ∧
      ∀ name, t'.claim? = some name → t.claim? = some name := by
  obtain ⟨t', hintake', hturn⟩ := hstep.turn h.intake
  obtain ⟨hbarren, hleft⟩ := hturn.barren h.barren hattended (hsound.fed i t h.intake).1
  refine ⟨t', ⟨hintake', hbarren, ?_⟩, hleft, fun name => hturn.claim?⟩
  intro name hclaim'
  have hclaim := hturn.claim? hclaim'
  have hvacant := h.vacant name hclaim
  rcases hstep.tarballs_cases with hsame | ⟨j, t₁, -, hintake₁, hstage₁, hinsert, -⟩
  · rw [hsame, hvacant]
  · -- Whoever stores holds its name, so it is under another name than that of `i`.
    have hne : name ≠ t₁.name := by
      rintro rfl
      have hheld : d.holder (.inr i) = some t₁.name :=
        Option.bind_eq_some_iff.2 ⟨t, h.intake, hclaim⟩
      have hstores : d.holder (.inr j) = some t₁.name :=
        Option.bind_eq_some_iff.2 ⟨t₁, hintake₁, by simp only [Intake.claim?, hstage₁]⟩
      obtain rfl : i = j := Sum.inr.inj (hsound.held.unique _ _ _ hheld hstores)
      obtain rfl : t = t₁ := Option.some.inj (h.intake.symm.trans hintake₁)
      simpa [Intake.Barren, hstage₁] using h.barren
    rw [hinsert, Dict.find?_insert_of_ne _ _ hne, hvacant]

theorem run (hlost : Lost d i t) (h : d₀.Begins) (hrun : Run d₀ d) (hrun' : Run d d') :
    ∃ t', Lost d' i t' := by
  induction hrun' with
  | refl => exact ⟨t, hlost⟩
  | tail hrun' hstep ih =>
    obtain ⟨t₁, hlost₁⟩ := ih
    have hwhole := hrun.trans hrun'
    obtain ⟨t', hlost', -⟩ :=
      hlost₁.step (h.sound.run hwhole) (Run.attended h hwhole hlost₁.intake) hstep
    exact ⟨t', hlost'⟩

/-- **A name that such an intake lets go of is free.** -/
theorem isFree (h : Lost d i t) (hstep : Step d d') (hheld : d.holder (.inr i) = some name)
    (hgone : d'.holder (.inr i) ≠ some name) : d'.store.IsFree name := by
  obtain ⟨hclaimed, htarballs⟩ := hstep.lets_go hheld hgone
  refine ⟨hclaimed, Store.hasTarball_eq_false_iff.2 ?_⟩
  rw [htarballs]
  refine h.vacant name ?_
  rwa [holder, h.intake] at hheld

end Lost

/-- **A run in which an intake has so many goes**, or more. -/
inductive Served (i : Nat) (d : Traffic) : Nat → Traffic → Prop
  /-- Nothing has happened. -/
  | refl : Served i d 0 d
  /-- The intake has a go. -/
  | go {n : Nat} {d' : Traffic} (served : Served i d n d') :
    Served i d (n + 1) { d' with store := (d'.store.intakeStep i).2.1 }
  /-- Somebody does something. -/
  | step {n : Nat} {d' d'' : Traffic} (served : Served i d n d') (step : Step d' d'') :
    Served i d n d''

namespace Served

theorem run (hserved : Served i d n d') : Run d d' := by
  induction hserved with
  | refl => exact .refl
  | go _ ih => exact ih.tail (.intake i)
  | step _ hstep ih => exact ih.tail hstep

/-- While a barren intake holds its name, each of its goes is one fewer that are left. -/
theorem lost (hserved : Served i d n d') (h : d₀.Begins) (hrun : Run d₀ d) (hlost : Lost d i t) :
    ∃ t', Lost d' i t' ∧ ∀ name, t'.claim? = some name →
      t.claim? = some name ∧ t'.left + n ≤ t.left := by
  induction hserved with
  | refl => exact ⟨t, hlost, fun name hclaim => ⟨hclaim, Nat.le_refl _⟩⟩
  | @go n d' hserved ih =>
    obtain ⟨t', hlost', hleft⟩ := ih
    have hrun' := hrun.trans hserved.run
    obtain ⟨t'', hlost'', -, hclaim⟩ := hlost'.step (h.sound.run hrun')
      (Run.attended h hrun' hlost'.intake) (.intake i)
    refine ⟨t'', hlost'', ?_⟩
    intro name hclaim''
    have hclaim' := hclaim name hclaim''
    obtain ⟨t₁, hintake₁, hless⟩ := hlost'.barren.left_intakeStep hclaim' hlost'.intake
    obtain rfl : t₁ = t'' := Option.some.inj (hintake₁.symm.trans hlost''.intake)
    obtain ⟨hheld, hbound⟩ := hleft name hclaim'
    exact ⟨hheld, by omega⟩
  | @step n d' d'' hserved hstep ih =>
    obtain ⟨t', hlost', hleft⟩ := ih
    have hrun' := hrun.trans hserved.run
    obtain ⟨t'', hlost'', hless, hclaim⟩ := hlost'.step (h.sound.run hrun')
      (Run.attended h hrun' hlost'.intake) hstep
    refine ⟨t'', hlost'', ?_⟩
    intro name hclaim''
    obtain ⟨hheld, hbound⟩ := hleft name (hclaim name hclaim'')
    exact ⟨hheld, by omega⟩

end Served

/-! ## The law -/

/-- **How the names of tarballs are reserved.**  An intake, `.inr i`, holds its name until it lets
go of it. -/
structure Reservations (d : Traffic) : Prop where
  /-- While no call is on its way, a name is claimed if and only if an intake holds it. -/
  claimed_iff : d.Idle → ∀ name, name ∈ d.store.claimed ↔ ∃ i, d.holder (.inr i) = some name
  /-- No two intakes hold one name. -/
  unique : ∀ i j name, d.holder (.inr i) = some name → d.holder (.inr j) = some name → i = j
  /-- Opening a tarball for writing succeeds if and only if the tarball is not there and no intake
  holds its name. -/
  opens_iff : d.Idle → ∀ name, (∃ i s, d.store.openWrite name = (.ok i, s)) ↔
    d.store.hasTarball name = false ∧ ∀ i, d.holder (.inr i) ≠ some name
  /-- Otherwise the name is in conflict, and nothing changes. -/
  conflicts : ∀ name, (∀ i s, d.store.openWrite name ≠ (.ok i, s)) →
    d.store.openWrite name = (.error (.conflict name), d.store)
  /-- To open a tarball is to take a few steps with nobody in between. -/
  uninterrupted : d.Idle → ∀ name, ∃ d', Run d d' ∧ d'.Idle ∧ d'.store = (d.store.openWrite name).2
  /-- When an intake whose upload was given up lets go of its name, the tarball can be opened. -/
  reopens : ∀ i t, d.store.intakes[i]? = some t → t.GivenUp (d.hands i) →
    ∀ d₁ d₂, Run d d₁ → Step d₁ d₂ → d₁.holder (.inr i) = some t.name →
      d₂.holder (.inr i) ≠ some t.name →
      ∃ s, d₂.store.openWrite t.name = (.ok d₂.store.intakes.length, s)
  /-- Such an intake lets go of its name, whatever else happens, within two goes more than it has
  frames on their way. -/
  lets_go : ∀ i t, d.store.intakes[i]? = some t → t.GivenUp (d.hands i) →
    ∀ n d', Served i d n d' → t.upload.queue.length + 2 ≤ n → d'.holder (.inr i) = none

/-- **Names are reserved exactly.**  Whatever calls, writers and intakes do and in whatever order,
the claimed names are those of the intakes that have not let go, one each; a tarball can be opened
for writing if and only if it is not there and its name is not claimed; and an upload that is given
up frees its name. -/
theorem names_reserved (h : d₀.Begins) (hrun : Run d₀ d) : Reservations d := by
  have hsound : Sound d₀ d := h.sound.run hrun
  have hclaimed : d.Idle → ∀ name, name ∈ d.store.claimed ↔ ∃ i, d.holder (.inr i) = some name := by
    intro hidle name
    rw [hsound.held.mem_iff]
    constructor
    · rintro ⟨k | i, hheld⟩
      · simp [holder, hidle k] at hheld
      · exact ⟨i, hheld⟩
    · rintro ⟨i, hheld⟩
      exact ⟨.inr i, hheld⟩
  constructor
  case claimed_iff => exact hclaimed
  case unique =>
    exact fun i j name hi hj => Sum.inr.inj (hsound.held.unique _ _ _ hi hj)
  case opens_iff =>
    intro hidle name
    rw [Store.openWrite_ok_iff, Store.IsFree, hclaimed hidle, not_exists, and_comm]
  case conflicts =>
    intro name hnot
    refine Store.openWrite_of_not_isFree fun hfree => ?_
    obtain ⟨i, s, hopen⟩ := Store.openWrite_ok_iff.2 hfree
    exact hnot i s hopen
  case uninterrupted =>
    intro hidle name
    obtain ⟨d', hrun', hstore, hcalls⟩ := d.run_openWrite name (hidle 0)
    exact ⟨d', hrun', fun k => hcalls ▸ hidle k, hstore⟩
  case reopens =>
    intro i t hintake hgiven d₁ d₂ hrun₁ hstep hheld hgone
    obtain ⟨t₁, hlost⟩ := (Lost.of_givenUp hsound hintake hgiven).run h hrun hrun₁
    exact ⟨_, Store.openWrite_of_isFree (hlost.isFree hstep hheld hgone)⟩
  case lets_go =>
    intro i t hintake hgiven n d' hserved hn
    obtain ⟨t', hlost, hleft⟩ := hserved.lost h hrun (Lost.of_givenUp hsound hintake hgiven)
    rw [holder, hlost.intake, Option.bind_some, Option.eq_none_iff_forall_ne_some]
    intro name hclaim
    have hpos := hlost.barren.left_pos hclaim
    have hbound := (hleft name hclaim).2
    rw [hgiven.left_eq] at hbound
    omega

/-- A writer that leaves without the end frame: the name is in conflict until its intake has had two
goes. -/
theorem names_reserved_dropped :
    ∃ d d', Run { store := .ofData [] [("a", [1])] } d ∧ Reservations d ∧
      d.holder (.inr 0) = some "p" ∧
      d.store.openWrite "p" = (.error (.conflict "p"), d.store) ∧
      Served 0 d 2 d' ∧ d'.holder (.inr 0) = none := by
  have hrun := ((((Relation.ReflTransGen.single
    (Step.claim (d := { store := .ofData [] [("a", [1])] }) 0 "p" rfl rfl)).tail
    (.check 0 "p" rfl)).tail
    (.start 0 "p" rfl)).tail
    (.write 0 rfl .leave))
  have hlaw := names_reserved (begins_ofData _ _) hrun
  exact ⟨_, _, hrun, hlaw, rfl, by rfl, .go (.go .refl),
    hlaw.lets_go 0 _ rfl ⟨rfl, .inr ⟨rfl, rfl⟩⟩ 2 _ (.go (.go .refl)) (by decide)⟩

end Traffic

end RegistryProxy
