import Mathlib.Logic.Function.Basic
import Mathlib.Logic.Relation
import RegistryProxy.Proofs.Store.Exclusion
import RegistryProxy.Store.Update

/-!
# Proofs/Store/Updates — updates that run at the same time

`Updates` is a store with any number of updates on it.  A `Step` lets one of them do its next
thing, drops one that waits for its lock, or lets somebody else change other packages.  `Act` says
once what the next thing of an update can be, and `Exclusive` is the invariant of the locks: every
update has its own seat there, so of the updates of one package one at most is between its lock and
the release of it (`guard_unique`).
-/

namespace RegistryProxy

namespace Update

/-! ## How far an update has come -/

variable {u : Update} {s : Store}

/-- The number of an update at its lock, and whether it is a guard there. -/
def seat? (u : Update) : Option (Nat × Bool) :=
  match u.stage with
  | .joined ticket | .queued ticket => some (ticket, false)
  | .locked ticket | .loaded ticket _ | .writing ticket _ _ | .leaving ticket _ =>
    some (ticket, true)
  | .start | .tidying _ | .over _ => none

/-- Whether an update has not been given its lock. -/
def isWaiting (u : Update) : Bool :=
  match u.stage with
  | .start | .joined _ | .queued _ => true
  | _ => false

/-- Whether an update holds its lock. -/
def isGuard (u : Update) : Bool := u.seat?.any Prod.snd

/-- The package that an update has written. -/
def record? (u : Update) : Option Package :=
  match u.stage with
  | .leaving _ (.ok p) | .tidying (.ok p) | .over (.ok p) => some p
  | _ => none

/-- What an update has in hand comes from the package as it is now. -/
def Current (u : Update) (d : Documents) : Prop :=
  match u.stage with
  | .loaded _ p => d.read u.name = .ok p
  | .writing _ p _ => ∃ q, d.read u.name = .ok q ∧ u.transform q = .ok p
  | _ => True

/-- **What one thing that an update does can be.** -/
inductive Act (u : Update) (s : Store) : Update → Store → Prop
  | join (h : u.stage = .start) :
    Act u s (u.goTo (.joined s.locks.fresh)) { s with locks := (s.locks.join u.name).2 }
  | enqueue (ticket : Nat) (h : u.stage = .joined ticket) :
    Act u s (u.goTo (.queued ticket)) { s with locks := s.locks.enqueue ticket }
  | enter (ticket : Nat) (h : u.stage = .queued ticket) (howns : s.locks.owns ticket = true) :
    Act u s (u.goTo (.locked ticket)) { s with locks := s.locks.hold ticket }
  | stay : Act u s u s
  | load (ticket : Nat) (p : Package) (h : u.stage = .locked ticket)
    (hread : s.packages.read u.name = .ok p) : Act u s (u.goTo (.loaded ticket p)) s
  | transform (ticket : Nat) (p q : Package) (h : u.stage = .loaded ticket p)
    (htransform : u.transform p = .ok q) :
    Act u s (u.goTo (.writing ticket q u.writer.waits)) s
  | suspend (ticket : Nat) (p : Package) (n : Nat)
    (h : u.stage = .writing ticket p (some (n + 1))) :
    Act u s (u.goTo (.writing ticket p (some n))) s
  | fail (ticket : Nat) (e : Error) (h : u.seat? = some (ticket, true))
    (hrecord : u.record? = none) :
    Act u s (u.goTo (.leaving ticket (.error e))) s
  | write (ticket : Nat) (p : Package) (h : u.stage = .writing ticket p (some 0)) :
    Act u s (u.goTo (.leaving ticket (written u.name p (u.writer.write u.name p s.packages).1)))
      { s with packages := (u.writer.write u.name p s.packages).2 }
  | release (ticket : Nat) (result : Except Error Package) (h : u.stage = .leaving ticket result) :
    Act u s (u.goTo (.tidying result)) { s with locks := s.locks.release ticket }
  | tidy (result : Except Error Package) (h : u.stage = .tidying result) :
    Act u s (u.goTo (.over result)) { s with locks := s.locks.tidy u.name }

theorem act_step (u : Update) (s : Store) : Act u s (u.step s).2.1 (u.step s).2.2 := by
  rw [step]
  split
  case h_1 h => exact .join h
  case h_2 ticket h => exact .enqueue ticket h
  case h_3 ticket h =>
    by_cases howns : s.locks.owns ticket = true
    · simpa [Locks.poll, howns] using Act.enter ticket h howns
    · simpa [Locks.poll, howns] using Act.stay
  case h_4 ticket h =>
    cases hread : s.packages.read u.name with
    | ok p => exact .load ticket p h hread
    | error e => exact .fail ticket e (by simp [seat?, h]) (by simp [record?, h])
  case h_5 ticket p h =>
    cases htransform : u.transform p with
    | ok q => exact .transform ticket p q h htransform
    | error e => exact .fail ticket e (by simp [seat?, h]) (by simp [record?, h])
  case h_6 => exact .stay
  case h_7 ticket p n h => exact .suspend ticket p n h
  case h_8 ticket p h => exact .write ticket p h
  case h_9 ticket result h => exact .release ticket result h
  case h_10 result h => exact .tidy result h
  case h_11 => exact .stay

end Update

/-- Updates that run at the same time on one store. -/
structure Updates where
  /-- The store. -/
  store : Store
  /-- The updates that have not been dropped, by number. -/
  calls : Nat → Option Update
  /-- The numbers of those that were given their lock, in the order in which they were. -/
  granted : List Nat := []

namespace Updates

variable {r r₀ r' : Updates} {i j : Nat} {u v : Update} {name : String}

/-- Lets an update do its next thing. -/
def advance (r : Updates) (i : Nat) (u : Update) : Updates where
  store := (u.step r.store).2.2
  calls := Function.update r.calls i (some (u.step r.store).2.1)
  granted := if u.isWaiting && !(u.step r.store).2.1.isWaiting then r.granted ++ [i] else r.granted

/-- Drops an update. -/
def drop (r : Updates) (i : Nat) (u : Update) : Updates :=
  { r with store := u.cancel r.store, calls := Function.update r.calls i none }

/-- **One step of a run** in which nobody else writes the package `name`. -/
inductive Step (name : String) : Updates → Updates → Prop
  /-- An update does its next thing. -/
  | advance {r : Updates} {i : Nat} {u : Update} (call : r.calls i = some u) :
    Step name r (r.advance i u)
  /-- An update that waits for its lock is dropped. -/
  | drop {r : Updates} {i : Nat} {u : Update} (call : r.calls i = some u)
    (waiting : u.isWaiting = true) : Step name r (r.drop i u)
  /-- Somebody does something else to the store. -/
  | elsewhere {r : Updates} {s : Store} (locks : s.locks = r.store.locks)
    (same : s.packages.find? name = r.store.packages.find? name) : Step name r { r with store := s }

/-- A run of any number of steps. -/
abbrev Run (name : String) : Updates → Updates → Prop := Relation.ReflTransGen (Step name)

/-- **Where a run begins**: no update has begun, and nobody else is at the locks.  A writer may wait
as often as it likes, and then saves what it was given. -/
structure Begins (r : Updates) : Prop where
  /-- Nobody is party to a lock. -/
  idle : r.store.locks.parties = []
  /-- No update has been given its lock. -/
  ungranted : r.granted = []
  /-- No update has begun. -/
  start : ∀ i u, r.calls i = some u → u.stage = .start
  /-- Every writer saves. -/
  saving : ∀ i u, r.calls i = some u → u.writer.write = Writer.saving.write

/-! ## One seat for each update -/

/-- **Every update has a seat of its own at the locks.** -/
structure Exclusive (r : Updates) : Prop where
  /-- The locks are sound. -/
  sound : r.store.locks.Sound
  /-- An update has the seat that it thinks it has. -/
  seated : ∀ i u ticket held, r.calls i = some u → u.seat? = some (ticket, held) →
    r.store.locks.Seat ticket u.name held
  /-- No two updates have one seat. -/
  apart : ∀ i j u v ticket held held', r.calls i = some u → r.calls j = some v →
    u.seat? = some (ticket, held) → v.seat? = some (ticket, held') → i = j

theorem Begins.exclusive (h : r.Begins) : r.Exclusive where
  sound := Locks.sound_of_no_parties h.idle
  seated i u ticket held hcall hseat := by simp [Update.seat?, h.start i u hcall] at hseat
  apart i j u v ticket held held' hcall _ hseat _ := by
    simp [Update.seat?, h.start i u hcall] at hseat

theorem update_cases {f : Nat → Option Update} {call : Option Update}
    (h : Function.update f i call j = some v) :
    (j = i ∧ call = some v) ∨ (j ≠ i ∧ f j = some v) := by
  by_cases hj : j = i
  · subst hj
    exact .inl ⟨rfl, by simpa using h⟩
  · exact .inr ⟨hj, by simpa [hj] using h⟩

namespace Exclusive

/-- **Of the updates of one package one at most holds the lock.** -/
theorem guard_unique (h : r.Exclusive) (hu : r.calls i = some u) (hv : r.calls j = some v)
    (hname : u.name = v.name) (hguard : u.isGuard = true) (hguard' : v.isGuard = true) : i = j := by
  obtain ⟨⟨ticket, _⟩, hseat, rfl⟩ : ∃ seat, u.seat? = some seat ∧ seat.2 = true := by
    simpa [Update.isGuard, Option.any_eq_true] using hguard
  obtain ⟨⟨ticket', _⟩, hseat', rfl⟩ : ∃ seat, v.seat? = some seat ∧ seat.2 = true := by
    simpa [Update.isGuard, Option.any_eq_true] using hguard'
  obtain rfl := h.sound.ticket_unique (h.seated i u _ _ hu hseat)
    (hname ▸ h.seated j v _ _ hv hseat')
  exact h.apart i j u v _ _ _ hu hv hseat hseat'

/-- **The frame of a step of one update**: it may change its own seat, take a new one, or give its
seat up, as long as all other seats stay. -/
theorem replace (h : r.Exclusive) (hu : r.calls i = some u) {s : Store} {call : Option Update}
    {granted : List Nat} (hsound : s.locks.Sound)
    (hothers : ∀ ticket key held, (∀ held', u.seat? ≠ some (ticket, held')) →
      r.store.locks.Seat ticket key held → s.locks.Seat ticket key held)
    (hown : ∀ u' ticket held, call = some u' → u'.seat? = some (ticket, held) →
      s.locks.Seat ticket u'.name held ∧
        ((∃ held', u.seat? = some (ticket, held')) ∨ ticket = r.store.locks.fresh)) :
    Exclusive ⟨s, Function.update r.calls i call, granted⟩ where
  sound := hsound
  seated j v ticket held hcall hseat := by
    rcases update_cases hcall with ⟨rfl, rfl⟩ | ⟨hne, hv⟩
    · exact (hown v ticket held rfl hseat).1
    · refine hothers _ _ _ (fun held' hseat' => hne ?_) (h.seated j v _ _ hv hseat)
      exact h.apart j i v u _ _ _ hv hu hseat hseat'
  apart j k v w ticket held held' hv hw hseat hseat' := by
    -- A seat that the update has now is one that it had or one that is new.
    have hclash : ∀ k w u' held held', k ≠ i → r.calls k = some w → w.seat? = some (ticket, held) →
        call = some u' → u'.seat? = some (ticket, held') → False := by
      intro k w u' held held' hne hw hseat hcall hseat'
      rcases (hown u' ticket held' hcall hseat').2 with ⟨held'', hold⟩ | hfresh
      · exact hne (h.apart k i w u _ _ _ hw hu hseat hold)
      · have hlt := h.sound.seat_lt_fresh (h.seated k w _ _ hw hseat)
        omega
    rcases update_cases hv with ⟨hj, hv'⟩ | ⟨hj, hv'⟩ <;>
      rcases update_cases hw with ⟨hk, hw'⟩ | ⟨hk, hw'⟩
    · rw [hj, hk]
    · exact (hclash k w v held' held hk hw' hseat' hv' hseat).elim
    · exact (hclash j v w held held' hj hv' hseat hw' hseat').elim
    · exact h.apart j k v w _ _ _ hv' hw' hseat hseat'

/-- A step that leaves the locks alone, and the update in its seat. -/
theorem replace_of_seat_eq (h : r.Exclusive) (hu : r.calls i = some u) {s : Store} {u' : Update}
    {granted : List Nat} (hlocks : s.locks = r.store.locks) (hname : u'.name = u.name)
    (hseat : u'.seat? = u.seat?) :
    Exclusive ⟨s, Function.update r.calls i (some u'), granted⟩ := by
  refine h.replace hu (hlocks ▸ h.sound) (fun _ _ _ _ hseat => hlocks ▸ hseat) ?_
  rintro _ ticket held ⟨⟩ hseat'
  rw [hseat] at hseat'
  exact ⟨hlocks ▸ hname ▸ h.seated i u ticket held hu hseat', .inl ⟨held, hseat'⟩⟩

theorem advance (h : r.Exclusive) (hu : r.calls i = some u) : (r.advance i u).Exclusive := by
  rw [Updates.advance]
  generalize hu' : (u.step r.store).2.1 = u', hs' : (u.step r.store).2.2 = s'
  have hact : u.Act r.store u' s' := hu' ▸ hs' ▸ u.act_step r.store
  cases hact with
  | join hstage =>
    refine h.replace hu (h.sound.join _) (fun _ _ _ _ hseat => hseat.join _) ?_
    rintro _ ticket held ⟨⟩ ⟨⟩
    exact ⟨Locks.seat_join _ _, .inr rfl⟩
  | enqueue ticket hstage =>
    have hseat : u.seat? = some (ticket, false) := by simp [Update.seat?, hstage]
    have hseated := h.seated i u _ _ hu hseat
    refine h.replace hu (h.sound.enqueue fun c hc => h.sound.held_eq_false hseated hc)
      (fun _ _ _ _ hseat => hseat.enqueue _) ?_
    rintro _ ticket' held ⟨⟩ ⟨⟩
    exact ⟨hseated.enqueue _, .inl ⟨_, hseat⟩⟩
  | enter ticket hstage howns =>
    have hseat : u.seat? = some (ticket, false) := by simp [Update.seat?, hstage]
    refine h.replace hu (h.sound.hold howns)
      (fun _ _ _ hne hseat' => hseat'.hold_of_ne fun heq => hne false (heq ▸ hseat)) ?_
    rintro _ ticket' held ⟨⟩ ⟨⟩
    exact ⟨(h.seated i u _ _ hu hseat).hold, .inl ⟨_, hseat⟩⟩
  | release ticket result hstage =>
    have hseat : u.seat? = some (ticket, true) := by simp [Update.seat?, hstage]
    refine h.replace hu (h.sound.release _)
      (fun _ _ _ hne hseat' => hseat'.release fun heq => hne true (heq ▸ hseat)) ?_
    rintro _ ticket' held ⟨⟩ ⟨⟩
  | tidy result hstage =>
    refine h.replace hu (h.sound.tidy _) (fun _ _ _ _ hseat => hseat.tidy _) ?_
    rintro _ ticket held ⟨⟩ ⟨⟩
  | stay => exact h.replace_of_seat_eq hu rfl rfl rfl
  | fail ticket e hseat => exact h.replace_of_seat_eq hu rfl rfl hseat.symm
  | load ticket p hstage | transform ticket p q hstage | suspend ticket p n hstage
  | write ticket p hstage =>
    exact h.replace_of_seat_eq hu rfl rfl (by simp [Update.seat?, Update.goTo, hstage])

theorem drop (h : r.Exclusive) (hu : r.calls i = some u) (hwaiting : u.isWaiting = true) :
    (r.drop i u).Exclusive := by
  cases hseat : u.seat? with
  | none =>
    have hcancel : u.cancel r.store = r.store := by
      cases hstage : u.stage <;>
        simp [Update.seat?, Update.isWaiting, Update.cancel, hstage] at hseat hwaiting ⊢
    rw [Updates.drop, hcancel]
    exact h.replace hu h.sound (fun _ _ _ _ hseat => hseat) (by rintro _ _ _ ⟨⟩)
  | some seat =>
    obtain ⟨ticket, held⟩ := seat
    obtain rfl : held = false := by
      cases hstage : u.stage <;> simp_all [Update.seat?, Update.isWaiting]
    have hcancel : u.cancel r.store =
        { r.store with locks := r.store.locks.release ticket } := by
      rw [← h.sound.drop_eq_release (h.seated i u _ _ hu hseat)]
      cases hstage : u.stage <;> simp_all [Update.seat?, Update.cancel]
    rw [Updates.drop, hcancel]
    refine h.replace hu (h.sound.release _)
      (fun _ _ _ hne hseat' => hseat'.release fun heq => hne false (heq ▸ hseat)) ?_
    rintro _ _ _ ⟨⟩

/-- Whatever somebody else does to the packages and tarballs. -/
theorem elsewhere (h : r.Exclusive) {s : Store} (hlocks : s.locks = r.store.locks) :
    Exclusive { r with store := s } where
  sound := hlocks ▸ h.sound
  seated i u ticket held hu hseat := hlocks ▸ h.seated i u ticket held hu hseat
  apart := h.apart

end Exclusive

end Updates

end RegistryProxy
