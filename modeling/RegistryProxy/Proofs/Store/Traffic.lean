import Mathlib.Logic.Function.Basic
import Mathlib.Logic.Relation
import RegistryProxy.Proofs.Store.Intake

/-!
# Proofs/Store/Traffic — tarballs on their way into a store

`Traffic` is a store with all who bring tarballs into it: the calls that open a tarball for
writing, each of which claims a name, looks whether the tarball is there and starts an intake, and
the writers of the intakes.  A `Step` lets one of them, or one intake, do its next thing.  Every
claimed name has exactly one call or intake behind it (`Held`), in every state of every run
(`Run.held`).
-/

namespace RegistryProxy

/-! ## Names and who holds them -/

section Held

variable {α : Type} {holder holder' : α → Option String} {claimed : List String} {x y : α}
  {name : String}

/-- **Every claimed name has exactly one holder**, and nobody holds a name that is not claimed. -/
structure Held (holder : α → Option String) (claimed : List String) : Prop where
  /-- A name is claimed if and only if somebody holds it. -/
  mem_iff : ∀ name, name ∈ claimed ↔ ∃ x, holder x = some name
  /-- No two hold one name. -/
  unique : ∀ x y name, holder x = some name → holder y = some name → x = y

namespace Held

theorem congr (h : Held holder claimed) (hsame : ∀ z, holder' z = holder z) :
    Held holder' claimed := by
  rwa [funext hsame]

/-- Somebody claims a name that nobody holds. -/
theorem take (h : Held holder claimed) (hx : holder x = none) (hname : name ∉ claimed)
    (hx' : holder' x = some name) (hsame : ∀ z, z ≠ x → holder' z = holder z) :
    Held holder' (name :: claimed) where
  mem_iff n := by
    rw [List.mem_cons, h.mem_iff]
    constructor
    · rintro (rfl | ⟨z, hz⟩)
      · exact ⟨x, hx'⟩
      · have hzx : z ≠ x := by
          rintro rfl
          simp [hx] at hz
        exact ⟨z, (hsame z hzx).trans hz⟩
    · rintro ⟨z, hz⟩
      by_cases hzx : z = x
      · subst hzx
        exact .inl (Option.some.inj (hz.symm.trans hx'))
      · exact .inr ⟨z, (hsame z hzx).symm.trans hz⟩
  unique y z n hy hz := by
    have hother : ∀ z, z ≠ x → holder' z ≠ some name := fun z hzx hz =>
      hname ((h.mem_iff name).2 ⟨z, (hsame z hzx).symm.trans hz⟩)
    by_cases hyx : y = x <;> by_cases hzx : z = x
    · rw [hyx, hzx]
    · subst hyx
      exact absurd (hz.trans (hy.symm.trans hx')) (hother z hzx)
    · subst hzx
      exact absurd (hy.trans (hz.symm.trans hx')) (hother y hyx)
    · exact h.unique y z n ((hsame y hyx).symm.trans hy) ((hsame z hzx).symm.trans hz)

/-- Somebody gives the name free that it holds. -/
theorem give (h : Held holder claimed) (hx : holder x = some name) (hx' : holder' x = none)
    (hsame : ∀ z, z ≠ x → holder' z = holder z) :
    Held holder' (claimed.filter fun n => n != name) where
  mem_iff n := by
    rw [List.mem_filter, h.mem_iff, bne_iff_ne]
    constructor
    · rintro ⟨⟨z, hz⟩, hn⟩
      have hzx : z ≠ x := by
        rintro rfl
        exact hn (Option.some.inj (hz.symm.trans hx))
      exact ⟨z, (hsame z hzx).trans hz⟩
    · rintro ⟨z, hz⟩
      have hzx : z ≠ x := by
        rintro rfl
        simp [hx'] at hz
      rw [hsame z hzx] at hz
      refine ⟨⟨z, hz⟩, ?_⟩
      rintro rfl
      exact hzx (h.unique z x n hz hx)
  unique y z n hy hz := by
    have hne : ∀ w, holder' w = some n → w ≠ x := by
      rintro w hw rfl
      simp [hx'] at hw
    have hyx := hne y hy
    have hzx := hne z hz
    exact h.unique y z n ((hsame y hyx).symm.trans hy) ((hsame z hzx).symm.trans hz)

/-- Somebody passes its name on to another who held none. -/
theorem pass (h : Held holder claimed) (hx : holder x = some name) (hy : holder y = none)
    (hx' : holder' x = none) (hy' : holder' y = some name)
    (hsame : ∀ z, z ≠ x → z ≠ y → holder' z = holder z) : Held holder' claimed := by
  -- Whoever holds a name now held it before, with `x` in the place of `y`.
  have hback : ∀ z n, holder' z = some n → (z = y ∧ n = name) ∨ (z ≠ x ∧ holder z = some n) := by
    intro z n hz
    by_cases hzy : z = y
    · subst hzy
      exact .inl ⟨rfl, Option.some.inj (hz.symm.trans hy')⟩
    · have hzx : z ≠ x := by
        rintro rfl
        simp [hx'] at hz
      exact .inr ⟨hzx, (hsame z hzx hzy).symm.trans hz⟩
  constructor
  · intro n
    rw [h.mem_iff]
    constructor
    · rintro ⟨z, hz⟩
      by_cases hzx : z = x
      · subst hzx
        exact ⟨y, hy'.trans (hx.symm.trans hz)⟩
      · have hzy : z ≠ y := by
          rintro rfl
          simp [hy] at hz
        exact ⟨z, (hsame z hzx hzy).trans hz⟩
    · rintro ⟨z, hz⟩
      rcases hback z n hz with ⟨-, rfl⟩ | ⟨-, hz⟩
      · exact ⟨x, hx⟩
      · exact ⟨z, hz⟩
  · intro z w n hz hw
    rcases hback z n hz with ⟨rfl, rfl⟩ | ⟨hzx, hz⟩ <;>
      rcases hback w _ hw with ⟨rfl, hn⟩ | ⟨hwx, hw⟩
    · rfl
    · exact absurd (h.unique w x _ hw hx) hwx
    · exact absurd (h.unique z x _ (hn ▸ hz) hx) hzx
    · exact h.unique z w n hz hw

end Held

end Held

/-! ## The intakes of a store, one by one -/

namespace Store

variable {s s' : Store} {i j : Nat} {t t' : Intake} {name : String}

/-- A name is claimed once at a time. -/
theorem claim_eq_ok (h : s.claim name = .ok s') :
    name ∉ s.claimed ∧ s' = { s with claimed := name :: s.claimed } := by
  rw [claim] at h
  split at h
  · cases h
  · next hnot => exact ⟨fun hmem => hnot (List.contains_iff_mem.2 hmem), (Except.ok.inj h).symm⟩

theorem getElem?_setIntake_of_ne (h : j ≠ i) : (s.setIntake i t').intakes[j]? = s.intakes[j]? :=
  List.getElem?_set_ne h.symm

theorem getElem?_addIntake_self : (s.addIntake name).2.intakes[s.intakes.length]? = some { name } :=
  List.getElem?_concat_length

theorem getElem?_addIntake_of_ne (h : j ≠ s.intakes.length) :
    (s.addIntake name).2.intakes[j]? = s.intakes[j]? := by
  rw [addIntake, List.getElem?_append]
  split
  · rfl
  · next hj =>
    have hlast : [({ name } : Intake)].length ≤ j - s.intakes.length := by
      rw [List.length_singleton]
      omega
    rw [List.getElem?_eq_none hlast, List.getElem?_eq_none (by omega)]

end Store

/-! ## Calls, writers and intakes -/

/-- A call on its way to open a tarball for writing. -/
inductive Entry where
  /-- It has claimed the name. -/
  | claimed (name : String)
  /-- It has found the tarball there. -/
  | taken (name : String)
  /-- It has not found the tarball. -/
  | free (name : String)

/-- The name that a call has claimed. -/
def Entry.name : Entry → String
  | .claimed name | .taken name | .free name => name

/-- The name that a call is to start an intake for. -/
def Entry.target? : Entry → Option String
  | .free name => some name
  | .claimed _ | .taken _ => none

/-- A store with all who bring tarballs into it. -/
structure Traffic where
  /-- The store. -/
  store : Store
  /-- The calls that have claimed a name and not answered, by number. -/
  calls : Nat → Option Entry := fun _ => none
  /-- The writers of the intakes, by the index of the intake. -/
  hands : Nat → Hand := fun _ => {}

namespace Traffic

variable {d d₀ d' : Traffic} {i j k : Nat} {name : String} {data : Bytes} {t : Intake}

/-- **One step of a run.**  A call whose name is claimed already answers at once and changes
nothing. -/
inductive Step : Traffic → Traffic → Prop
  /-- A call claims a name. -/
  | claim {d : Traffic} {s : Store} (k : Nat) (name : String) (idle : d.calls k = none)
    (claim : d.store.claim name = .ok s) :
    Step d { d with store := s, calls := Function.update d.calls k (some (.claimed name)) }
  /-- A call looks whether the tarball is there. -/
  | check {d : Traffic} (k : Nat) (name : String) (call : d.calls k = some (.claimed name)) :
    Step d { d with
      calls := Function.update d.calls k
        (some (if d.store.hasTarball name then .taken name else .free name)) }
  /-- A call gives its name free and fails. -/
  | withdraw {d : Traffic} (k : Nat) (name : String) (call : d.calls k = some (.taken name)) :
    Step d { d with store := d.store.unclaim name, calls := Function.update d.calls k none }
  /-- A call starts an intake and answers with its writer. -/
  | start {d : Traffic} (k : Nat) (name : String) (call : d.calls k = some (.free name)) :
    Step d {
      store := (d.store.addIntake name).2
      calls := Function.update d.calls k none
      hands := Function.update d.hands (d.store.addIntake name).1 {} }
  /-- A writer does something, or somebody gives its upload up. -/
  | write {d : Traffic} {t : Intake} {h : Hand} {u : Upload} (i : Nat)
    (intake : d.store.intakes[i]? = some t) (act : (d.hands i).Act t.upload h u) :
    Step d { d with
      store := d.store.setIntake i { t with upload := u }, hands := Function.update d.hands i h }
  /-- An intake does its next thing. -/
  | intake {d : Traffic} (i : Nat) : Step d { d with store := (d.store.intakeStep i).2.1 }
  /-- Somebody changes packages or locks. -/
  | aside {d : Traffic} {s : Store} (tarballs : s.tarballs = d.store.tarballs)
    (claimed : s.claimed = d.store.claimed) (intakes : s.intakes = d.store.intakes) :
    Step d { d with store := s }

/-- A run of any number of steps. -/
abbrev Run : Traffic → Traffic → Prop := Relation.ReflTransGen Step

/-- **Where a run begins**: there may be packages and tarballs, but nothing is on its way in. -/
structure Begins (d : Traffic) : Prop where
  /-- No name is claimed. -/
  unclaimed : d.store.claimed = []
  /-- There has been no intake. -/
  empty : d.store.intakes = []
  /-- There is no call. -/
  idle : ∀ k, d.calls k = none

theorem begins_ofData (packages : List Package) (tarballs : List (String × Bytes)) :
    Begins { store := .ofData packages tarballs } := ⟨rfl, rfl, fun _ => rfl⟩

/-- The name that a call, on the left, or an intake, on the right, holds. -/
def holder (d : Traffic) : Nat ⊕ Nat → Option String
  | .inl k => (d.calls k).map Entry.name
  | .inr i => d.store.intakes[i]?.bind Intake.claim?

/-- The name that a call or an intake is to store a tarball under. -/
def target (d : Traffic) : Nat ⊕ Nat → Option String
  | .inl k => (d.calls k).bind Entry.target?
  | .inr i => d.store.intakes[i]?.bind Intake.target?

/-- Nobody is to store under a name that it does not hold. -/
theorem holder_of_target {x : Nat ⊕ Nat} (h : d.target x = some name) : d.holder x = some name := by
  cases x with
  | inl k =>
    obtain ⟨c, hc, htarget⟩ := Option.bind_eq_some_iff.1 h
    cases c with
    | free n => simpa [holder, hc, Entry.name, Entry.target?] using htarget
    | claimed n | taken n => cases htarget
  | inr i =>
    obtain ⟨t, ht, htarget⟩ := Option.bind_eq_some_iff.1 h
    exact Option.bind_eq_some_iff.2 ⟨t, ht, t.claim?_of_target? htarget⟩

/-! ## Whoever holds a name -/

/-- What one call does changes no other holder. -/
theorem holder_update_of_ne {s : Store} {call : Option Entry} {hands : Nat → Hand} {x : Nat ⊕ Nat}
    (hintakes : s.intakes = d.store.intakes) (hx : x ≠ .inl k) :
    holder ⟨s, Function.update d.calls k call, hands⟩ x = d.holder x := by
  cases x with
  | inl j =>
    have hjk : j ≠ k := fun hjk => hx (congrArg Sum.inl hjk)
    simp only [holder, Function.update_of_ne hjk]
  | inr j => simp only [holder, hintakes]

theorem holder_update_self {s : Store} {call : Option Entry} {hands : Nat → Hand} :
    holder ⟨s, Function.update d.calls k call, hands⟩ (.inl k) = call.map Entry.name := by
  simp only [holder, Function.update_self]

/-- Nor does what one intake does. -/
theorem holder_setIntake_of_ne {s : Store} {f : Nat → Hand} {t' : Intake} {x : Nat ⊕ Nat}
    (hintakes : s.intakes = d.store.intakes) (hx : x ≠ .inr i) :
    holder ⟨s.setIntake i t', d.calls, f⟩ x = d.holder x := by
  cases x with
  | inl j => rfl
  | inr j =>
    have hji : j ≠ i := fun hji => hx (congrArg Sum.inr hji)
    simp only [holder, Store.getElem?_setIntake_of_ne hji, hintakes]

theorem holder_setIntake_self {s : Store} (f : Nat → Hand) (t' : Intake)
    (hintake : s.intakes[i]? = some t) :
    holder ⟨s.setIntake i t', d.calls, f⟩ (.inr i) = t'.claim? := by
  simp only [holder, Store.getElem?_setIntake_self hintake, Option.bind_some]

/-- An intake that keeps its claim changes nothing about who holds what. -/
theorem holder_setIntake {s : Store} (f : Nat → Hand) {t' : Intake}
    (hintakes : s.intakes = d.store.intakes) (hintake : d.store.intakes[i]? = some t)
    (hclaim : t'.claim? = t.claim?) (x : Nat ⊕ Nat) :
    holder ⟨s.setIntake i t', d.calls, f⟩ x = d.holder x := by
  by_cases hx : x = .inr i
  · subst hx
    rw [holder_setIntake_self f t' (hintakes ▸ hintake), hclaim, holder, hintake, Option.bind_some]
  · exact holder_setIntake_of_ne hintakes hx

theorem Begins.held (h : d.Begins) : Held d.holder d.store.claimed := by
  have hnone : ∀ x, d.holder x = none := by
    rintro (k | i)
    · simp only [holder, h.idle k, Option.map_none]
    · simp only [holder, h.empty, List.getElem?_nil, Option.bind_none]
  constructor
  · intro name
    simp [h.unclaimed, hnone]
  · intro x y name hx
    simp [hnone] at hx

/-- **Every step keeps one holder for each claimed name.** -/
theorem Step.held (hstep : Step d d') (h : Held d.holder d.store.claimed) :
    Held d'.holder d'.store.claimed := by
  cases hstep with
  | claim k name hidle hclaim =>
    obtain ⟨hname, rfl⟩ := Store.claim_eq_ok hclaim
    exact h.take (x := .inl k) (by simp only [holder, hidle, Option.map_none]) hname
      holder_update_self fun z hz => holder_update_of_ne rfl hz
  | check k name hcall =>
    refine h.congr ?_
    intro z
    by_cases hz : z = .inl k
    · subst hz
      rw [holder_update_self, holder, hcall]
      split <;> rfl
    · exact holder_update_of_ne rfl hz
  | withdraw k name hcall =>
    have hheld : d.holder (.inl k) = some name := by
      rw [holder, hcall]
      rfl
    exact h.give hheld holder_update_self fun z hz => holder_update_of_ne rfl hz
  | start k name hcall =>
    have hheld : d.holder (.inl k) = some name := by
      rw [holder, hcall]
      rfl
    refine h.pass (y := .inr d.store.intakes.length) hheld
      (by simp only [holder, List.getElem?_eq_none (Nat.le_refl _), Option.bind_none])
      holder_update_self ?_ ?_
    · simp only [holder, Store.getElem?_addIntake_self, Option.bind_some, Intake.claim?]
    · rintro (j | j) hj hj'
      · have hjk : j ≠ k := fun hjk => hj (congrArg Sum.inl hjk)
        simp only [holder, Function.update_of_ne hjk]
      · have hlast : j ≠ d.store.intakes.length := fun hlast => hj' (congrArg Sum.inr hlast)
        simp only [holder, Store.getElem?_addIntake_of_ne hlast]
  | @write t h' u i hintake hact =>
    have hclaim : Intake.claim? { t with upload := u } = t.claim? := rfl
    exact h.congr fun z => holder_setIntake _ rfl hintake hclaim z
  | intake i =>
    have hintaken := d.store.intaken_intakeStep i
    generalize (d.store.intakeStep i).2.1 = s at hintaken
    cases hintaken with
    | stay => exact h
    | move t t' hintake hmoves =>
      exact h.congr fun z => holder_setIntake d.hands rfl hintake hmoves.claim?_eq z
    | store t hintake hstage =>
      have hclaim : Intake.claim? { t with stage := .releasing (.ok t.buffer.length) } =
          t.claim? := by
        simp only [Intake.claim?, hstage]
      exact h.congr fun z => holder_setIntake
        (s := { d.store with tarballs := d.store.tarballs.insert t.name t.buffer }) d.hands rfl
        hintake hclaim z
    | release t report hintake hstage =>
      have hgone := holder_setIntake_self (d := d) (s := d.store.unclaim t.name) d.hands
        { t with stage := .reporting report } hintake
      refine h.give (x := .inr i) ?_ hgone fun z hz => holder_setIntake_of_ne rfl hz
      simp only [holder, hintake, Option.bind_some, Intake.claim?, hstage]
  | aside htarballs hclaimed hintakes =>
    rw [hclaimed]
    refine h.congr ?_
    intro z
    cases z with
    | inl j => rfl
    | inr j => simp only [holder, hintakes]

/-- **Every claimed name has one holder**, along every run. -/
theorem Run.held (hrun : Run d d') (h : Held d.holder d.store.claimed) :
    Held d'.holder d'.store.claimed := by
  induction hrun with
  | refl => exact h
  | tail _ hstep ih => exact hstep.held ih

/-! ## The operations of a store are runs

A store opens a tarball for writing, and lets its intakes run until they wait, without anybody in
between; the steps are those of a run. -/

/-- **Opening a tarball for writing is a run** of at most three steps. -/
theorem run_openWrite (d : Traffic) (name : String) (hidle : d.calls k = none) :
    ∃ d', Run d d' ∧ d'.store = (d.store.openWrite name).2 ∧ d'.calls = d.calls := by
  have hcalls : ∀ c c',
      Function.update (Function.update (Function.update d.calls k c) k c') k none = d.calls := by
    intro c c'
    rw [Function.update_idem, Function.update_idem, ← hidle, Function.update_eq_self]
  rw [Store.openWrite]
  split
  · exact ⟨d, .refl, rfl, rfl⟩
  · next s hclaim =>
    have hchecked : ∀ e, (if s.hasTarball name then Entry.taken name else .free name) = e →
        Run d ⟨s, Function.update (Function.update d.calls k (some (.claimed name))) k (some e),
          d.hands⟩ := by
      rintro _ rfl
      exact (Relation.ReflTransGen.single (.claim k name hidle hclaim)).tail
        (.check k name (Function.update_self ..))
    rw [Store.startIntake]
    split
    · next htaken =>
      exact ⟨_, (hchecked _ (if_pos htaken)).tail (.withdraw k name (Function.update_self ..)), rfl,
        hcalls ..⟩
    · next hfree =>
      exact ⟨_, (hchecked _ (if_neg hfree)).tail (.start k name (Function.update_self ..)), rfl,
        hcalls ..⟩

theorem run_works {s : Store} (hworks : d.store.Works s) : Run d { d with store := s } := by
  induction hworks with
  | refl => exact .refl
  | tail _ hstep ih =>
    obtain ⟨i, rfl⟩ := hstep
    exact ih.tail (.intake i)

/-- **Letting the intakes run is a run.** -/
theorem run_settle (d : Traffic) : Run d { d with store := d.store.settle.1 } :=
  run_works d.store.works_settle

end Traffic

end RegistryProxy
