import RegistryProxy.Proofs.Store.Course
import RegistryProxy.Proofs.Store.Lobby

/-!
# Proofs/Store/Errand — an update fails as a whole

An `Errand` is one update on its way through a store where others are at work: between two of its
turns they may do anything to packages and tarballs, and come and go at the locks.  `Errand.Kept` is
what every step keeps, and `update_atomic` reads off what an update leaves behind when it answers:
an update that does not read its package or refuses to change it leaves the store to the others, any
other calls its writer once and writes nothing itself, and none stays behind at its lock.
-/

namespace RegistryProxy

/-! ## The place at the lock -/

/-- The party that makes a move, unless it is new or gone. -/
def Lobby.Move.party? : Lobby.Move → Option Locks.Party
  | .enqueue c | .poll c | .giveUp c | .release c => some c
  | .join _ | .tidy _ => none

namespace Locks

variable {l : Locks} {ticket : Nat} {key : String} {held : Bool}

/-- The party with this number has been there and is gone. -/
def Gone (l : Locks) (ticket : Nat) : Prop := ticket < l.fresh ∧ ∀ c ∈ l.parties, c.ticket ≠ ticket

/-- The party with this number is in line. -/
def Queued (l : Locks) (ticket : Nat) : Prop := ∃ c ∈ l.parties, c.ticket = ticket ∧ c.queued = true

theorem Sound.gone_release (h : l.Sound) (hseat : l.Seat ticket key held) :
    (l.release ticket).Gone ticket :=
  ⟨h.seat_lt_fresh hseat, fun _ hc => (mem_release.1 hc).2⟩

theorem Gone.tidy (h : l.Gone ticket) (key : String) : (l.tidy key).Gone ticket := by
  rwa [Gone, parties_tidy, fresh_tidy]

theorem Seat.queued_enqueue (hseat : l.Seat ticket key held) :
    (l.enqueue ticket).Queued ticket := by
  obtain ⟨c, hc, hticket, -⟩ := hseat
  exact ⟨_, mem_enqueue.2 (.inr ⟨c, hc, hticket, rfl⟩), hticket, rfl⟩

/-- **Who waits in line and does not have its lock, waits for somebody else** to let it go. -/
theorem Sound.exists_holder (h : l.Sound) (hseat : l.Seat ticket key held)
    (hqueued : l.Queued ticket) (howns : ¬ l.owns ticket = true) :
    ∃ c, l.holder? key = some c ∧ c.ticket ≠ ticket := by
  obtain ⟨c, hc, hticket, rfl, -⟩ := hseat
  obtain ⟨d, hd, hticket', hd'⟩ := hqueued
  obtain rfl := h.eq_of_ticket hd hc (hticket'.trans hticket.symm)
  obtain ⟨owner, howner⟩ : ∃ owner, l.owner? d.lock = some owner := by
    rw [← Option.isSome_iff_exists, owner?, List.find?_isSome]
    exact ⟨d, hd, by simp [hd']⟩
  refine ⟨owner, by rw [holder?, h.entered d hd]; exact howner, fun heq => howns ?_⟩
  simp [owns, h.party?_eq hd hticket, howner, heq]

end Locks

namespace Lobby

variable {w w' : Lobby} {m : Move} {c : Locks.Party} {ticket : Nat} {key : String} {held : Bool}

theorem Step.fresh_le (hstep : Step w m w') : w.locks.fresh ≤ w'.locks.fresh := by
  cases hstep with
  | join => exact Nat.le_succ _
  | poll c =>
    simp only [Locks.poll]
    split <;> exact Nat.le_refl _
  | enqueue | giveUp | release => exact Nat.le_refl _
  | tidy key => exact Nat.le_of_eq (Locks.fresh_tidy ..).symm

/-- **Whoever moves, nobody else is touched**: no other party changes, goes or comes back. -/
theorem Step.mem_parties_iff (hstep : Step w m w')
    (hother : ∀ d, m.party? = some d → d.ticket ≠ c.ticket) (hlt : c.ticket < w.locks.fresh) :
    c ∈ w'.locks.parties ↔ c ∈ w.locks.parties := by
  cases hstep with
  | join key' =>
    refine Locks.mem_join.trans (or_iff_left ?_)
    rintro rfl
    exact Nat.lt_irrefl _ hlt
  | enqueue d =>
    have hne : c.ticket ≠ d.ticket := (hother d rfl).symm
    refine Locks.mem_enqueue.trans ⟨?_, fun hc => .inl ⟨hc, hne⟩⟩
    rintro (⟨hc, -⟩ | ⟨b, -, hticket, rfl⟩)
    · exact hc
    · exact absurd hticket hne
  | poll d =>
    have hne : c.ticket ≠ d.ticket := (hother d rfl).symm
    simp only [Locks.poll]
    split
    · refine Locks.mem_hold.trans ⟨?_, fun hc => ⟨c, hc, (if_neg hne).symm⟩⟩
      rintro ⟨b, hb, rfl⟩
      split at hne
      · next hticket => exact absurd hticket hne
      · next hticket => rwa [if_neg hticket]
    · exact Iff.rfl
  | giveUp d | release d =>
    exact Locks.mem_release.trans (and_iff_left (hother d rfl).symm)
  | tidy key' => rw [Locks.parties_tidy]

theorem Step.seat (hstep : Step w m w') (hother : ∀ d, m.party? = some d → d.ticket ≠ ticket)
    (hlt : ticket < w.locks.fresh) (hseat : w.locks.Seat ticket key held) :
    w'.locks.Seat ticket key held := by
  obtain ⟨c, hc, rfl, h⟩ := hseat
  exact ⟨c, (hstep.mem_parties_iff hother hlt).2 hc, rfl, h⟩

theorem Step.queued (hstep : Step w m w') (hother : ∀ d, m.party? = some d → d.ticket ≠ ticket)
    (hlt : ticket < w.locks.fresh) (hqueued : w.locks.Queued ticket) :
    w'.locks.Queued ticket := by
  obtain ⟨c, hc, rfl, h⟩ := hqueued
  exact ⟨c, (hstep.mem_parties_iff hother hlt).2 hc, rfl, h⟩

theorem Step.gone (hstep : Step w m w') (hother : ∀ d, m.party? = some d → d.ticket ≠ ticket)
    (hgone : w.locks.Gone ticket) : w'.locks.Gone ticket := by
  refine ⟨Nat.lt_of_lt_of_le hgone.1 hstep.fresh_le, ?_⟩
  rintro c hc rfl
  exact hgone.2 c ((hstep.mem_parties_iff hother hgone.1).1 hc) rfl

end Lobby

/-! ## Errands -/

/-- An update on its way, with what it and others have done since it began. -/
structure Errand where
  /-- The update. -/
  update : Update
  /-- The store. -/
  store : Store
  /-- What has happened to packages and tarballs, oldest first. -/
  history : List Update.Deed := []
  /-- The number that the update has or had at its lock. -/
  ticket? : Option Nat := none
  /-- How many turns the update has had. -/
  turns : Nat := 0

namespace Errand

/-- Lets the update do its next thing. -/
def turn (w : Errand) : Errand where
  update := (w.update.step w.store).2.1
  store := (w.update.step w.store).2.2
  history := w.history ++ w.update.deeds w.store
  ticket? := ((w.update.step w.store).2.1.seat?.map Prod.fst).or w.ticket?
  turns := w.turns + 1

/-- **One step of a run.** -/
inductive Step (w : Errand) : Errand → Prop
  /-- The update has a turn. -/
  | turn : Step w w.turn
  /-- Somebody else does something to what the store holds. -/
  | change (f : Store.Change) : Step w { w with
      store := { f w.store.unlocked with locks := w.store.locks }
      history := w.history ++ [.other f] }
  /-- Somebody else makes a move at the locks. -/
  | move (leaving : List String) (m : Lobby.Move) (l : Lobby)
    (step : Lobby.Step ⟨w.store.locks, leaving⟩ m l)
    (other : ∀ c, m.party? = some c → w.ticket? ≠ some c.ticket) :
    Step w { w with store := { w.store with locks := l.locks } }

/-- A run of any number of steps. -/
abbrev Run : Errand → Errand → Prop := Relation.ReflTransGen Step

/-- The errand of an order, before its first turn. -/
def ofOrder (o : Update.Order) (s : Store) : Errand := { update := o.update, store := s }

/-- **A poll of an update is a run**: turns without anybody in between. -/
theorem exists_run_of_poll (fuel : Nat) (w : Errand) :
    ∃ w', Run w w' ∧ w'.update = (w.update.run fuel w.store).2.1 ∧
      w'.store = (w.update.run fuel w.store).2.2 ∧
      ∀ r, (w.update.run fuel w.store).1 = .ready r → w'.update.stage = .over r := by
  induction fuel generalizing w with
  | zero => exact ⟨w, .refl, rfl, rfl, by rintro _ ⟨⟩⟩
  | succ fuel ih =>
    have hover {r : Except Error Package} := Update.stage_of_step_over (u := w.update)
      (s := w.store) (r := r)
    have hupdate : w.turn.update = (w.update.step w.store).2.1 := rfl
    have hstore : w.turn.store = (w.update.step w.store).2.2 := rfl
    rw [Update.run]
    generalize w.update.step w.store = next at hover hupdate hstore
    obtain ⟨progress, u, s⟩ := next
    cases progress with
    | goOn =>
      obtain ⟨w', hrun, hw'⟩ := ih w.turn
      rw [hupdate, hstore] at hw'
      exact ⟨w', .head .turn hrun, hw'⟩
    | wait => exact ⟨w.turn, .single .turn, hupdate, hstore, by rintro _ ⟨⟩⟩
    | «over» r =>
      refine ⟨w.turn, .single .turn, hupdate, hstore, ?_⟩
      rintro _ ⟨⟩
      rw [hupdate]
      exact hover rfl

/-! ## What a run keeps -/

variable {o : Update.Order} {s : Store} {w w' : Errand}

/-- **Where the update stands at the locks.** -/
def Placed (name : String) (w : Errand) : Prop :=
  match w.update.seat? with
  | some (ticket, held) => w.ticket? = some ticket ∧ w.store.locks.Seat ticket name held
  | none => w.update.stage = .start ∨ ∃ ticket, w.ticket? = some ticket ∧ w.store.locks.Gone ticket

/-- An update that thinks that it is in line is there. -/
def Lined (w : Errand) : Prop :=
  match w.update.stage with
  | .queued ticket => w.store.locks.Queued ticket
  | _ => True

/-- A writer that waits forever has said so. -/
def Patient (w : Errand) : Prop :=
  match w.update.stage with
  | .writing _ _ none => w.update.writer.waits = none
  | _ => True

/-- **What a run keeps.** -/
structure Kept (o : Update.Order) (s : Store) (w : Errand) : Prop where
  /-- The update is the one that was ordered. -/
  update : w.update = o.update.goTo w.update.stage
  /-- The locks are in order. -/
  lobby : Lobby.Kept ⟨w.store.locks, []⟩
  /-- The update has its place there, or had it. -/
  placed : w.Placed o.name
  /-- It is in line if it thinks so. -/
  lined : w.Lined
  /-- It waits forever for a writer only if that is how the writer is. -/
  patient : w.Patient
  /-- The update follows its course. -/
  along : Update.Along o s w.history w.store.unlocked w.update.stage

theorem kept_ofOrder {moves : List Lobby.Move} {leaving : List String}
    (hlocks : Lobby.Run moves ⟨s.locks, leaving⟩) : Kept o s (ofOrder o s) where
  update := rfl
  lobby := ⟨(Lobby.kept_run hlocks).sound, (Lobby.kept_run hlocks).apart⟩
  placed := .inl rfl
  lined := trivial
  patient := trivial
  along := ⟨[], rfl, rfl⟩

namespace Kept

theorem name_eq (h : Kept o s w) : w.update.name = o.name := congrArg Update.name h.update

theorem goTo_eq (h : Kept o s w) (stage : Update.Stage) :
    w.update.goTo stage = o.update.goTo stage := by
  rw [h.update]
  rfl

/-- The place that an update thinks it has. -/
theorem seat {ticket : Nat} {held : Bool} (h : Kept o s w)
    (hseat : w.update.seat? = some (ticket, held)) :
    w.ticket? = some ticket ∧ w.store.locks.Seat ticket o.name held := by
  have hplaced := h.placed
  rwa [Placed, hseat] at hplaced

theorem queued {ticket : Nat} (h : Kept o s w) (hstage : w.update.stage = .queued ticket) :
    w.store.locks.Queued ticket := by
  have hlined := h.lined
  rwa [Lined, hstage] at hlined

theorem waits_eq {ticket : Nat} {q : Package} (h : Kept o s w)
    (hstage : w.update.stage = .writing ticket q none) : o.update.writer.waits = none := by
  have hpatient := h.patient
  rw [Patient, hstage, h.update] at hpatient
  exact hpatient

/-- An update that is about to tidy up has let its lock go. -/
theorem gone {r : Except Error Package} (h : Kept o s w)
    (hstage : w.update.stage = .tidying r ∨ w.update.stage = .over r) :
    ∃ ticket, w.ticket? = some ticket ∧ w.store.locks.Gone ticket := by
  have hplaced := h.placed
  rcases hstage with hstage | hstage <;> simpa [Placed, Update.seat?, hstage] using hplaced

/-- **A turn keeps it.** -/
theorem turn (h : Kept o s w) : Kept o s w.turn := by
  have hupdate : w.turn.update = o.update.goTo w.turn.update.stage :=
    (w.update.step_eq_goTo w.store).trans (h.goTo_eq _)
  have halong := h.along.turn h.update
  have hact := w.update.act_step w.store
  have hsound := h.lobby.sound
  have hname := h.name_eq
  rw [Errand.turn] at hupdate ⊢
  generalize (w.update.step w.store).2.1 = u' at *
  generalize (w.update.step w.store).2.2 = s' at *
  cases hact with
  | join hstage =>
    refine ⟨hupdate, ⟨hsound.join _, h.lobby.apart.join _⟩, ⟨rfl, ?_⟩, trivial, trivial, halong⟩
    exact hname ▸ Locks.seat_join ..
  | enqueue ticket hstage =>
    have hseat := (h.seat (by rw [Update.seat?, hstage])).2
    have hnot : ∀ c ∈ w.store.locks.parties, c.ticket = ticket → c.held = false :=
      fun c hc => hsound.held_eq_false hseat hc
    exact ⟨hupdate, ⟨hsound.enqueue hnot, h.lobby.apart.congr rfl rfl⟩, ⟨rfl, hseat.enqueue _⟩,
      hseat.queued_enqueue, trivial, halong⟩
  | enter ticket hstage howns =>
    have hseat := (h.seat (by rw [Update.seat?, hstage])).2
    exact ⟨hupdate, ⟨hsound.hold howns, h.lobby.apart.congr rfl rfl⟩, ⟨rfl, hseat.hold⟩,
      trivial, trivial, halong⟩
  | stay =>
    refine ⟨hupdate, h.lobby, ?_, h.lined, h.patient, halong⟩
    cases hseat : w.update.seat? with
    | none => simpa [Placed, hseat] using h.placed
    | some seat => simpa [Placed, hseat] using (h.seat hseat).2
  | load ticket p hstage | suspend ticket p n hstage | write ticket p hstage =>
    have hseat := (h.seat (by rw [Update.seat?, hstage])).2
    exact ⟨hupdate, h.lobby, ⟨rfl, hseat⟩, trivial, trivial, halong⟩
  | transform ticket p q hstage =>
    have hseat := (h.seat (by rw [Update.seat?, hstage])).2
    refine ⟨hupdate, h.lobby, ⟨rfl, hseat⟩, trivial, ?_, halong⟩
    simp only [Patient, Update.goTo]
    split
    · next hwaits => exact (Update.Stage.writing.inj hwaits).2.2
    · trivial
  | fail ticket e hseat =>
    exact ⟨hupdate, h.lobby, ⟨rfl, (h.seat hseat).2⟩, trivial, trivial, halong⟩
  | release ticket result hstage =>
    obtain ⟨hticket, hseat⟩ := h.seat (by rw [Update.seat?, hstage])
    exact ⟨hupdate, ⟨hsound.release _, h.lobby.apart.congr rfl rfl⟩,
      .inr ⟨ticket, hticket, hsound.gone_release hseat⟩, trivial, trivial, halong⟩
  | tidy result hstage =>
    obtain ⟨ticket, hticket, hgone⟩ := h.gone (.inl hstage)
    exact ⟨hupdate, ⟨hsound.tidy _, h.lobby.apart.tidy _⟩, .inr ⟨ticket, hticket, hgone.tidy _⟩,
      trivial, trivial, halong⟩

/-- **So does whatever others do** to packages and tarballs, -/
theorem change (h : Kept o s w) (f : Store.Change) :
    Kept o s { w with
      store := { f w.store.unlocked with locks := w.store.locks }
      history := w.history ++ [.other f] } :=
  ⟨h.update, h.lobby, h.placed, h.lined, h.patient, h.along.other f⟩

/-- **and at the locks.** -/
theorem move (h : Kept o s w) {leaving : List String} {m : Lobby.Move} {l : Lobby}
    (hstep : Lobby.Step ⟨w.store.locks, leaving⟩ m l)
    (hother : ∀ c, m.party? = some c → w.ticket? ≠ some c.ticket) :
    Kept o s { w with store := { w.store with locks := l.locks } } := by
  have hne {ticket : Nat} (hticket : w.ticket? = some ticket) :
      ∀ c, m.party? = some c → c.ticket ≠ ticket := by
    rintro c hc rfl
    exact hother c hc hticket
  have hlobby : Lobby.Kept ⟨w.store.locks, leaving⟩ := ⟨h.lobby.sound, h.lobby.apart⟩
  have hlobby' := hlobby.step hstep
  refine ⟨h.update, ⟨hlobby'.sound, hlobby'.apart⟩, ?_, ?_, h.patient, h.along⟩
  · have hplaced := h.placed
    rw [Placed] at hplaced ⊢
    split at hplaced
    · next ticket held hseat =>
      rw [hseat]
      obtain ⟨hticket, hseated⟩ := hplaced
      exact ⟨hticket, hstep.seat (hne hticket) (h.lobby.sound.seat_lt_fresh hseated) hseated⟩
    · next hseat =>
      rw [hseat]
      refine hplaced.imp id ?_
      rintro ⟨ticket, hticket, hgone⟩
      exact ⟨ticket, hticket, hstep.gone (hne hticket) hgone⟩
  · simp only [Lined]
    split
    · next ticket hstage =>
      obtain ⟨hticket, hseated⟩ := h.seat (by rw [Update.seat?, hstage])
      exact hstep.queued (hne hticket) (h.lobby.sound.seat_lt_fresh hseated) (h.queued hstage)
    · trivial

theorem step (h : Kept o s w) (hstep : Step w w') : Kept o s w' := by
  cases hstep with
  | turn => exact h.turn
  | change f => exact h.change f
  | move leaving m l hstep hother => exact h.move hstep hother

theorem run (h : Kept o s w) (hrun : Run w w') : Kept o s w' := by
  induction hrun with
  | refl => exact h
  | tail _ hstep ih => exact ih.step hstep

end Kept

/-! ## An update returns -/

/-- **Before it has its lock, an update waits for nobody but the one who has it.** -/
theorem Kept.left_turn_of_isWaiting (h : Kept o s w) (hwaiting : w.update.isWaiting = true) :
    w.turn.update.left < w.update.left ∨
      ∃ c, w.store.locks.holder? o.name = some c ∧ w.ticket? ≠ some c.ticket := by
  rcases w.update.left_step w.store with hleft | ⟨r, hstage⟩ | ⟨ticket, hstage, howns⟩ |
    ⟨ticket, p, hstage⟩
  · exact .inl hleft
  · simp [Update.isWaiting, hstage] at hwaiting
  · obtain ⟨hticket, hseat⟩ := h.seat (by rw [Update.seat?, hstage])
    obtain ⟨c, hholder, hne⟩ := h.lobby.sound.exists_holder hseat (h.queued hstage) howns
    refine .inr ⟨c, hholder, fun hc => hne ?_⟩
    exact Option.some.inj (hc.symm.trans hticket)
  · simp [Update.isWaiting, hstage] at hwaiting

/-- **With its lock, an update is nearer to its end after every turn**, whatever others do. -/
theorem Kept.left_run (h : Kept o s w) (hwaits : o.update.writer.waits ≠ none)
    (hwaiting : w.update.isWaiting = false) (hrun : Run w w') :
    w'.update.isWaiting = false ∧ w'.update.left ≤ w.turns + w.update.left - w'.turns := by
  induction hrun with
  | refl => exact ⟨hwaiting, by omega⟩
  | @tail w' w'' hrun hstep ih =>
    obtain ⟨hwaiting', hleft⟩ := ih
    cases hstep with
    | change | move => exact ⟨hwaiting', hleft⟩
    | turn =>
      refine ⟨Update.isWaiting_step hwaiting', ?_⟩
      have hturns : w'.turn.turns = w'.turns + 1 := rfl
      rcases w'.update.left_step w'.store with hless | ⟨r, hstage⟩ | ⟨ticket, hstage, -⟩ |
        ⟨ticket, p, hstage⟩
      · have hless' : w'.turn.update.left < w'.update.left := hless
        omega
      · have hover : w'.turn.update.left = 0 := by
          simp [Errand.turn, Update.step, Update.left, hstage]
        omega
      · simp [Update.isWaiting, hstage] at hwaiting'
      · exact absurd ((h.run hrun).waits_eq hstage) hwaits

/-- **An update fails as a whole.**  Whatever others do in between, an update that answers has taken
one of the four courses: it has looked its package up once, and either it has not found it, could
not read it or was refused the change — then it answers just that, has called nobody, and the store
is what the others alone have made of it — or it has called its writer once, with the changed
package, nothing but what the writer wrote was written, and a failure of the writer is answered as
internal.  In each case it is no longer party to its lock.

And it does answer.  Until it has its lock every turn brings it nearer, unless somebody else has it;
from then on, unless its writer is never ready, it is over after so many turns as it has left. -/
theorem update_atomic {moves : List Lobby.Move} {leaving : List String}
    (hlocks : Lobby.Run moves ⟨s.locks, leaving⟩) (hrun : Run (ofOrder o s) w) :
    (∀ r, w.update.stage = .over r →
      Update.Course o s w.history w.store.unlocked r ∧
        ∃ ticket, w.ticket? = some ticket ∧
          ∀ c ∈ w.store.locks.parties, c.ticket ≠ ticket) ∧
      (w.update.isWaiting = true →
        w.turn.update.left < w.update.left ∨
          ∃ c, w.store.locks.holder? o.name = some c ∧ w.ticket? ≠ some c.ticket) ∧
      ((o.writer.getD .saving).waits ≠ none → w.update.isWaiting = false →
        ∀ w', Run w w' → w.turns + w.update.left ≤ w'.turns →
          ∃ r, w'.update.stage = .over r) := by
  have hkept := (kept_ofOrder (o := o) hlocks).run hrun
  refine ⟨fun r hstage => ?_, hkept.left_turn_of_isWaiting,
    fun hwaits hwaiting w' hrun' hturns => ?_⟩
  · have halong := hkept.along
    rw [hstage] at halong
    obtain ⟨ticket, hticket, -, hgone⟩ := hkept.gone (.inr hstage)
    exact ⟨halong, ticket, hticket, hgone⟩
  · have hleft := (hkept.left_run hwaits hwaiting hrun').2
    exact Update.exists_over_of_left (by omega)

/-- Turns of the update, and changes that others make in between. -/
def follow : List (Option Store.Change) → Errand → Errand
  | [], w => w
  | none :: rest, w => follow rest w.turn
  | some f :: rest, w => follow rest { w with
      store := { f w.store.unlocked with locks := w.store.locks }
      history := w.history ++ [.other f] }

theorem run_follow (events : List (Option Store.Change)) (w : Errand) :
    Run w (w.follow events) := by
  induction events generalizing w with
  | nil => exact .refl
  | cons event rest ih =>
    cases event with
    | none => exact (Relation.ReflTransGen.single .turn).trans (ih _)
    | some f => exact (Relation.ReflTransGen.single (.change f)).trans (ih _)

/-- A store with one package. -/
def onePackage : Store := .ofData [{ name := "p" }] []

/-- Adds a tag and then refuses. -/
def tagAndRefuse : Update.Order where
  name := "p"
  change := Edit.inPlace [.setTag "a" "1", .refuse (.aborted "no")]

/-- Adds a tag. -/
def tag : Update.Order where
  name := "p"
  change := Edit.inPlace [.setTag "a" "1"]

/-- Adds a tag, and the writer fails. -/
def tagUnwritten : Update.Order :=
  { tag with writer := some { write := fun _ _ packages => (.error (.aborted "full"), packages) } }

/-- The package with its tag. -/
def tagged : Package := { name := "p", tags := .ofList [("a", "1")] }

/-- While the update has its lock somebody stores another package. -/
def interrupted (o : Update.Order) : Errand :=
  follow [none, none, none, none, some fun s =>
      { s with packages := s.packages.save "q" { name := "q" } }, none, none, none, none]
    (ofOrder o onePackage)

/-- The calls of a writer in a history. -/
def callsOf (history : List Update.Deed) : List (String × Package × Except Error Unit) :=
  history.filterMap fun
    | .call name p answer => some (name, p, answer)
    | _ => none

theorem run_interrupted (o : Update.Order) : Run (ofOrder o onePackage) (interrupted o) :=
  run_follow ..

/-- **What becomes of an interrupted update**: it answers, its writer was called so, and these are
the packages then. -/
def ComesTo (o : Update.Order) (r : Except Error Package)
    (calls : List (String × Package × Except Error Unit)) (packages : List Package) : Prop :=
  (interrupted o).update.stage = .over r ∧ callsOf (interrupted o).history = calls ∧
    (interrupted o).store.packages = .ofPackages packages ∧
    Update.Course o onePackage (interrupted o).history (interrupted o).store.unlocked r

/-- One update is refused its change, one is written, and the writer of one fails.  Whatever becomes
of the tag, the other package is there. -/
theorem update_atomic_interrupted :
    Lobby.Run [] ⟨onePackage.locks, []⟩ ∧
      ComesTo tagAndRefuse (.error (.aborted "no")) [] [{ name := "p" }, { name := "q" }] ∧
      ComesTo tag (.ok tagged) [("p", tagged, .ok ())] [tagged, { name := "q" }] ∧
      ComesTo tagUnwritten (.error (Update.writeError "p" (.aborted "full")))
        [("p", tagged, .error (.aborted "full"))] [{ name := "p" }, { name := "q" }] := by
  have hcourse {o : Update.Order} {r : Except Error Package}
      (hover : (interrupted o).update.stage = .over r) :
      Update.Course o onePackage (interrupted o).history (interrupted o).store.unlocked r :=
    ((update_atomic .start (run_interrupted o)).1 r hover).1
  have hrefused : (interrupted tagAndRefuse).update.stage = .over (.error (.aborted "no")) := rfl
  have hsaved : (interrupted tag).update.stage = .over (.ok tagged) := rfl
  have hfailed : (interrupted tagUnwritten).update.stage =
      .over (.error (Update.writeError "p" (.aborted "full"))) := rfl
  refine ⟨.start, ⟨hrefused, ?_, ?_, hcourse hrefused⟩, ⟨hsaved, ?_, ?_, hcourse hsaved⟩,
    ⟨hfailed, ?_, ?_, hcourse hfailed⟩⟩
  all_goals decide +kernel

end Errand

end RegistryProxy
