import RegistryProxy.Proofs.Store.Traffic

/-!
# Proofs/Store/Commit — tarballs are whole and stay as they are

A tarball comes into the store by one step of one intake, when its name is vacant: nobody else may
store under the name, and no tarball is there (`Sound.vacant`).  What it brings is all that its
writer got into the upload, end frame included (`Sound.fed`).  So a tarball is one that was there at
first or what one whole upload carried (`tarballs_whole`), and it never changes.
-/

namespace RegistryProxy

namespace Traffic

variable {d d₀ d' : Traffic} {i j k : Nat} {name : String} {data : Bytes} {t : Intake}

/-! ## What a step changes -/

/-- **What a step can be for an intake that is there**: nothing, a go of its writer, or the next
thing that it does itself. -/
theorem Step.intake_cases (hstep : Step d d') (hintake : d.store.intakes[i]? = some t) :
    (d'.store.intakes[i]? = d.store.intakes[i]? ∧ d'.hands i = d.hands i) ∨
      (∃ u, (d.hands i).Act t.upload (d'.hands i) u ∧
        d'.store = d.store.setIntake i { t with upload := u }) ∨
      (d.store.Intaken i d'.store ∧ d'.hands i = d.hands i) := by
  cases hstep with
  | claim k name hidle hclaim =>
    obtain ⟨-, rfl⟩ := Store.claim_eq_ok hclaim
    exact .inl ⟨rfl, rfl⟩
  | check | withdraw => exact .inl ⟨rfl, rfl⟩
  | start k name hcall =>
    have hi : i ≠ d.store.intakes.length := by
      obtain ⟨hlt, -⟩ := List.getElem?_eq_some_iff.1 hintake
      omega
    exact .inl ⟨Store.getElem?_addIntake_of_ne hi, Function.update_of_ne hi ..⟩
  | @write t₁ h u j hintake₁ hact =>
    by_cases hij : i = j
    · subst hij
      obtain rfl : t = t₁ := Option.some.inj (hintake.symm.trans hintake₁)
      refine .inr (.inl ⟨u, ?_, rfl⟩)
      change (d.hands i).Act t.upload (Function.update d.hands i h i) u
      rwa [Function.update_self]
    · exact .inl ⟨Store.getElem?_setIntake_of_ne hij, Function.update_of_ne hij ..⟩
  | intake j =>
    have hintaken := d.store.intaken_intakeStep j
    generalize (d.store.intakeStep j).2.1 = s at hintaken
    by_cases hij : i = j
    · subst hij
      exact .inr (.inr ⟨hintaken, rfl⟩)
    · refine .inl ⟨?_, rfl⟩
      cases hintaken with
      | stay => rfl
      | move | store | release => exact Store.getElem?_setIntake_of_ne hij
  | aside htarballs hclaimed hintakes => exact .inl ⟨by rw [hintakes], rfl⟩

/-- What a step does to an intake that is there. -/
theorem Step.turn (hstep : Step d d') (hintake : d.store.intakes[i]? = some t) :
    ∃ t', d'.store.intakes[i]? = some t' ∧ t.Turn (d.hands i) t' (d'.hands i) := by
  rcases hstep.intake_cases hintake with ⟨hsame, hhand⟩ | ⟨u, hact, hstore⟩ | ⟨hintaken, hhand⟩
  · exact ⟨t, hsame.trans hintake, hhand ▸ .stay⟩
  · rw [hstore]
    exact ⟨_, Store.getElem?_setIntake_self hintake, .act _ u hact⟩
  rw [hhand]
  generalize d'.store = s at hintaken
  cases hintaken with
  | stay => exact ⟨t, hintake, .stay⟩
  | move t₁ t' hintake₁ hmoves =>
    obtain rfl : t = t₁ := Option.some.inj (hintake.symm.trans hintake₁)
    exact ⟨t', Store.getElem?_setIntake_self hintake, .moves t' hmoves⟩
  | store t₁ hintake₁ hstage =>
    obtain rfl : t = t₁ := Option.some.inj (hintake.symm.trans hintake₁)
    exact ⟨_, Store.getElem?_setIntake_self (s := { d.store with .. }) hintake, .stored hstage⟩
  | release t₁ report hintake₁ hstage =>
    obtain rfl : t = t₁ := Option.some.inj (hintake.symm.trans hintake₁)
    exact ⟨_, Store.getElem?_setIntake_self (s := d.store.unclaim t.name) hintake,
      .released report hstage⟩

/-- An intake that a step adds has a call behind it, and a writer who has done nothing. -/
theorem Step.born (hstep : Step d d') (hnone : d.store.intakes[i]? = none)
    (hintake : d'.store.intakes[i]? = some t) :
    t = { name := t.name } ∧ d'.hands i = {} ∧ ∃ k, d.calls k = some (.free t.name) := by
  have hset : ∀ {s : Store} {j : Nat} {t₁ t' : Intake}, s.intakes = d.store.intakes →
      d.store.intakes[j]? = some t₁ → (s.setIntake j t').intakes[i]? = none := by
    intro s j t₁ t' hintakes hj
    have hij : i ≠ j := by
      rintro rfl
      simp [hnone] at hj
    rw [Store.getElem?_setIntake_of_ne hij, hintakes, hnone]
  cases hstep with
  | claim k name hidle hclaim =>
    obtain ⟨-, rfl⟩ := Store.claim_eq_ok hclaim
    exact absurd (hnone.symm.trans hintake) (by simp)
  | check | withdraw => exact absurd (hnone.symm.trans hintake) (by simp)
  | start k name hcall =>
    by_cases hi : i = d.store.intakes.length
    · subst hi
      obtain rfl : { name } = t :=
        Option.some.inj (Store.getElem?_addIntake_self.symm.trans hintake)
      exact ⟨rfl, Function.update_self .., k, hcall⟩
    · rw [Store.getElem?_addIntake_of_ne hi, hnone] at hintake
      cases hintake
  | write j hintake₁ hact => exact absurd ((hset rfl hintake₁).symm.trans hintake) (by simp)
  | intake j =>
    have hintaken := d.store.intaken_intakeStep j
    generalize (d.store.intakeStep j).2.1 = s at hintaken hintake
    cases hintaken with
    | stay => exact absurd (hnone.symm.trans hintake) (by simp)
    | move t₁ t' hintake₁ | store t₁ hintake₁ | release t₁ report hintake₁ =>
      exact absurd ((hset rfl hintake₁).symm.trans hintake) (by simp)
  | aside htarballs hclaimed hintakes =>
    exact absurd (hnone.symm.trans (hintakes ▸ hintake)) (by simp)

/-- Nobody comes to be to store under a name, unless somebody was before or no tarball is there. -/
theorem Step.target_cases (hstep : Step d d') {x : Nat ⊕ Nat} (htarget : d'.target x = some name) :
    (∃ y, d.target y = some name) ∨ d.store.tarballs.find? name = none := by
  cases x with
  | inr i =>
    obtain ⟨t', hintake', htarget'⟩ := Option.bind_eq_some_iff.1 htarget
    cases hintake : d.store.intakes[i]? with
    | some t =>
      obtain ⟨t₁, hintake₁, hturn⟩ := hstep.turn hintake
      obtain rfl : t₁ = t' := Option.some.inj (hintake₁.symm.trans hintake')
      exact .inl ⟨.inr i, Option.bind_eq_some_iff.2 ⟨t, hintake, hturn.target? htarget'⟩⟩
    | none =>
      obtain ⟨ht, -, k, hcall⟩ := hstep.born hintake hintake'
      rw [ht] at htarget'
      refine .inl ⟨.inl k, ?_⟩
      rw [target, hcall]
      exact htarget'
  | inl k =>
    have hkept : d.calls k = d'.calls k → ∃ y, d.target y = some name := fun hcalls =>
      ⟨.inl k, (congrArg (Option.bind · Entry.target?) hcalls).trans htarget⟩
    have hupdate : ∀ {j : Nat} {call : Option Entry}, d'.calls = Function.update d.calls j call →
        call.bind Entry.target? = some name ∨ ∃ y, d.target y = some name := by
      intro j call hcalls
      by_cases hkj : k = j
      · subst hkj
        rw [target, hcalls, Function.update_self] at htarget
        exact .inl htarget
      · exact .inr (hkept (hcalls ▸ (Function.update_of_ne hkj ..).symm))
    cases hstep with
    | claim j n hidle hclaim =>
      rcases hupdate rfl with ⟨⟨⟩⟩ | hbefore
      exact .inl hbefore
    | check j n hcall =>
      rcases hupdate rfl with hnow | hbefore
      · split at hnow
        · cases hnow
        · next hfree =>
          obtain rfl : n = name := Option.some.inj hnow
          exact .inr (by simpa [Store.hasTarball, Dict.contains] using hfree)
      · exact .inl hbefore
    | withdraw j n hcall | start j n hcall =>
      rcases hupdate rfl with ⟨⟨⟩⟩ | hbefore
      exact .inl hbefore
    | write | intake | aside => exact .inl (hkept rfl)

/-- The one step that brings a tarball. -/
theorem Step.tarballs_cases (hstep : Step d d') :
    d'.store.tarballs = d.store.tarballs ∨
      ∃ (i : Nat) (t t' : Intake), d.store.intakes[i]? = some t ∧ t.stage = .storing ∧
        d'.store.tarballs = d.store.tarballs.insert t.name t.buffer ∧
        d'.store.intakes[i]? = some t' ∧ t'.claim? = some t.name ∧ t'.target? = none := by
  cases hstep with
  | claim k name hidle hclaim =>
    obtain ⟨-, rfl⟩ := Store.claim_eq_ok hclaim
    exact .inl rfl
  | check | withdraw | start | write => exact .inl rfl
  | intake i =>
    have hintaken := d.store.intaken_intakeStep i
    generalize (d.store.intakeStep i).2.1 = s at hintaken
    cases hintaken with
    | stay | move | release => exact .inl rfl
    | store t hintake hstage =>
      exact .inr ⟨i, t, _, hintake, hstage, rfl, Store.getElem?_setIntake_self hintake, rfl, rfl⟩
  | aside htarballs hclaimed hintakes => exact .inl htarballs

/-! ## What a run keeps -/

/-- **A tarball as it should be**: there at first, or all the chunks that one upload took, in order,
with the end frame behind them. -/
def Whole (d₀ d : Traffic) (name : String) (data : Bytes) : Prop :=
  d₀.store.tarballs.find? name = some data ∨
    ∃ (i : Nat) (t : Intake), d.store.intakes[i]? = some t ∧ t.name = name ∧
      (d.hands i).ended = true ∧ data = (d.hands i).accepted.flatten

/-- **What a run keeps about the tarballs.** -/
structure Sound (d₀ d : Traffic) : Prop where
  /-- Every claimed name has one holder. -/
  held : Held d.holder d.store.claimed
  /-- Whoever is to store a tarball finds none under its name. -/
  vacant : ∀ x name, d.target x = some name → d.store.tarballs.find? name = none
  /-- An intake has what its writer brought up, and a writer that has ended sends nothing more. -/
  fed : ∀ (i : Nat) (t : Intake), d.store.intakes[i]? = some t →
    t.Fed (d.hands i) ∧ (d.hands i).Quiet
  /-- Every tarball is whole. -/
  whole : ∀ name data, d.store.tarballs.find? name = some data → Whole d₀ d name data

theorem Begins.sound (h : d.Begins) : Sound d d where
  held := h.held
  vacant x name htarget := by
    have hmem : name ∈ d.store.claimed := (h.held.mem_iff name).2 ⟨x, holder_of_target htarget⟩
    rw [h.unclaimed] at hmem
    cases hmem
  fed i t hintake := by simp [h.empty] at hintake
  whole name data hfind := .inl hfind

namespace Sound

/-- The name of a tarball that is to be stored is new. -/
theorem vacant_of_storing (h : Sound d₀ d) (hintake : d.store.intakes[i]? = some t)
    (hstage : t.stage = .storing) : d.store.tarballs.find? t.name = none := by
  refine h.vacant (.inr i) t.name ?_
  rw [target, hintake, Option.bind_some, Intake.target?, hstage]

/-- **A tarball stays as it is.** -/
theorem find?_step (h : Sound d₀ d) (hstep : Step d d')
    (hfind : d.store.tarballs.find? name = some data) :
    d'.store.tarballs.find? name = some data := by
  rcases hstep.tarballs_cases with hsame | ⟨i, t, -, hintake, hstage, hinsert, -⟩
  · rw [hsame, hfind]
  · have hne : name ≠ t.name := by
      rintro rfl
      simp [h.vacant_of_storing hintake hstage] at hfind
    rw [hinsert, Dict.find?_insert_of_ne _ _ hne, hfind]

/-- A tarball that was whole is whole: its upload takes nothing more. -/
theorem whole_step (h : Sound d₀ d) (hstep : Step d d') (hwhole : Whole d₀ d name data) :
    Whole d₀ d' name data := by
  rcases hwhole with hseed | ⟨i, t, hintake, hname, hended, hdata⟩
  · exact .inl hseed
  · obtain ⟨t', hintake', hturn⟩ := hstep.turn hintake
    obtain ⟨haccepted, hended'⟩ := hturn.accepted_eq (h.fed i t hintake).2 hended
    exact .inr ⟨i, t', hintake', hturn.name_eq.trans hname, hended', by rw [haccepted, hdata]⟩

theorem step (h : Sound d₀ d) (hstep : Step d d') : Sound d₀ d' where
  held := hstep.held h.held
  vacant x name htarget := by
    have hvacant : d.store.tarballs.find? name = none := by
      rcases hstep.target_cases htarget with ⟨y, hy⟩ | hnone
      · exact h.vacant y name hy
      · exact hnone
    rcases hstep.tarballs_cases with hsame | ⟨i, t, t', -, -, hinsert, hintake', hclaim, hnone⟩
    · rw [hsame, hvacant]
    · -- The intake that stores still holds its name, so whoever is to store is somebody else.
      have hne : name ≠ t.name := by
        rintro rfl
        have hholder : d'.holder (.inr i) = some t.name := by
          rw [holder, hintake', Option.bind_some, hclaim]
        obtain rfl := (hstep.held h.held).unique _ _ _ (holder_of_target htarget) hholder
        rw [target, hintake', Option.bind_some, hnone] at htarget
        cases htarget
      rw [hinsert, Dict.find?_insert_of_ne _ _ hne, hvacant]
  fed i t' hintake' := by
    cases hintake : d.store.intakes[i]? with
    | some t =>
      obtain ⟨t₁, hintake₁, hturn⟩ := hstep.turn hintake
      obtain rfl : t₁ = t' := Option.some.inj (hintake₁.symm.trans hintake')
      obtain ⟨hfed, hquiet⟩ := h.fed i t hintake
      exact hturn.fed hfed hquiet
    | none =>
      obtain ⟨ht, hhand, -⟩ := hstep.born hintake hintake'
      rw [ht, hhand]
      exact ⟨⟨[], rfl, rfl⟩, fun hended => by cases hended⟩
  whole name data hfind := by
    rcases hstep.tarballs_cases with hsame | ⟨i, t, t', hintake, hstage, hinsert, hintake', -⟩
    · rw [hsame] at hfind
      exact h.whole_step hstep (h.whole name data hfind)
    · by_cases hname : name = t.name
      · subst hname
        rw [hinsert, Dict.find?_insert_self] at hfind
        obtain rfl : t.buffer = data := Option.some.inj hfind
        have hfed := (h.fed i t hintake).1
        simp only [Intake.Fed, hstage] at hfed
        exact h.whole_step hstep (.inr ⟨i, t, hintake, rfl, hfed.1, hfed.2⟩)
      · rw [hinsert, Dict.find?_insert_of_ne _ _ hname] at hfind
        exact h.whole_step hstep (h.whole name data hfind)

theorem run (h : Sound d₀ d) (hrun : Run d d') : Sound d₀ d' := by
  induction hrun with
  | refl => exact h
  | tail _ hstep ih => exact ih.step hstep

theorem find?_run (h : Sound d₀ d) (hrun : Run d d')
    (hfind : d.store.tarballs.find? name = some data) :
    d'.store.tarballs.find? name = some data := by
  induction hrun with
  | refl => exact hfind
  | tail hrun hstep ih => exact (h.run hrun).find?_step hstep ih

end Sound

/-- **Tarballs are whole and stay as they are.**  Whatever calls, writers and intakes do and in
whatever order: every tarball, as it is there to be found or read, was there at first or is what one
upload took, in order, of a writer that put the end frame behind it; and it is there, the same, in
all that follows. -/
theorem tarballs_whole (h : d₀.Begins) (hrun : Run d₀ d) :
    (∀ name data, d.store.tarballs.find? name = some data →
      d₀.store.tarballs.find? name = some data ∨
        ∃ (i : Nat) (t : Intake), d.store.intakes[i]? = some t ∧ t.name = name ∧
          (d.hands i).ended = true ∧ data = (d.hands i).accepted.flatten) ∧
      (∀ name, d.store.hasTarball name = true ↔
        ∃ data, d.store.tarballs.find? name = some data ∧
          d.store.openRead name = .ok (.ofBytes data Stream.pieceSize)) ∧
      (∀ d', Run d d' → ∀ name data, d.store.tarballs.find? name = some data →
        d'.store.tarballs.find? name = some data) := by
  have hsound : Sound d₀ d := h.sound.run hrun
  refine ⟨hsound.whole, ?_, fun d' hrun' name data => hsound.find?_run hrun'⟩
  intro name
  rw [Store.hasTarball, Dict.contains, Option.isSome_iff_exists]
  refine exists_congr fun data => ⟨fun hfind => ⟨hfind, ?_⟩, And.left⟩
  rw [Store.openRead, hfind]

/-- One upload behind another tarball: two chunks and the end frame. -/
theorem tarballs_whole_upload :
    ∃ d, Run { store := .ofData [] [("a", [1])] } d ∧
      d.store.tarballs.find? "p" = some [2, 3, 4] ∧
      ∃ (i : Nat) (t : Intake), d.store.intakes[i]? = some t ∧ t.name = "p" ∧
        (d.hands i).ended = true ∧ [2, 3, 4] = (d.hands i).accepted.flatten := by
  have hrun := (((((((((((Relation.ReflTransGen.single
    (Step.claim (d := { store := .ofData [] [("a", [1])] }) 0 "p" rfl rfl)).tail
    (.check 0 "p" rfl)).tail
    (.start 0 "p" rfl)).tail
    (.write 0 rfl (.write [2, 3] rfl))).tail
    (.intake 0)).tail
    (.write 0 rfl (.write [4] rfl))).tail
    (.write 0 rfl (.close .sending rfl))).tail
    (.intake 0)).tail
    (.intake 0)).tail
    (.intake 0)).tail
    (.intake 0))
  refine ⟨_, hrun, by rfl, ?_⟩
  exact ((tarballs_whole (begins_ofData _ _) hrun).1 "p" [2, 3, 4] (by rfl)).resolve_left
    (by decide +kernel)

end Traffic

end RegistryProxy
