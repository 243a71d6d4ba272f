import RegistryProxy.Proofs.Client.Fetch

/-!
# Proofs/Client/Workload — a client with much to do at once

A `Workload` is a client at work with all that it was asked for: calls, downloads and searches take
turns in any order, are given up or dropped, outcomes are recorded from outside, and time passes.
Its ledger holds the answers that calls and downloads heard, each at most once, and each as the
network gave it; the breaker is what one gets by counting the ledger, and nothing else
(`breaker_counts_ledger`).
-/

namespace RegistryProxy

open Client (World)

/-! ## Any operation -/

namespace Operation

variable {operation : Operation} {w : World} {wire : Option Wire}

/-- **An operation and its line go together.** -/
def Linked : Operation → Option Wire → Prop
  | .metadata c, wire => c.Linked wire
  | .tarball d, wire => d.Linked wire ∧ d.stream.Coherent
  | .search _, _ | .ended, _ => True

/-- Whether an operation has its answer, or no use for one. -/
def Settled : Operation → Option Wire → Prop
  | .metadata c, _ => c.Settled
  | .tarball d, wire => d.Settled wire
  | .search _, _ | .ended, _ => True

/-- **What a turn does** to the world and to the line of its operation. -/
structure Turned (operation : Operation) (w : World) (wire : Option Wire) (operation' : Operation)
    (w' : World) : Prop where
  /-- The world follows the line. -/
  affects : Affects w w' (operation.sends w) (Line.hears ⟨operation, wire⟩ w).1
  /-- The operation and the line go together. -/
  linked : operation'.Linked (Line.hears ⟨operation, wire⟩ w).2
  /-- With an answer it is settled, and it stays so. -/
  settled : (Line.hears ⟨operation, wire⟩ w).1.isSome = true ∨ operation.Settled wire →
    operation'.Settled (Line.hears ⟨operation, wire⟩ w).2

/-- A search sends its request, and neither asks the breaker nor tells it. -/
theorem affects_search (c : SearchCall) (w : World) :
    Affects w (c.poll w).2.2 ((Operation.search c).sends w) none := by
  rw [SearchCall.poll, sends, searchRequest?]
  cases hstage : c.stage with
  | sending x => exact .nothing w
  | start =>
    generalize w.client.requestHeaders Client.documentType ∅ none = x
    obtain ⟨headers, log⟩ := x
    cases headers with
    | error e => exact .note w log
    | ok headers =>
      dsimp only
      split
      · exact .note w log
      · exact ⟨rfl, rfl, rfl⟩

/-- **A turn does what its line tells.** -/
theorem turned (h : operation.Linked wire) (opening : Bool) :
    Turned operation w wire (operation.turn opening w).1 (operation.turn opening w).2 := by
  cases operation with
  | metadata c =>
    obtain ⟨haffects, hlinked, hsettled⟩ := MetadataCall.stepped (w := w) h
    exact ⟨haffects, hlinked, hsettled⟩
  | tarball d =>
    obtain ⟨hlinked, hcoherent⟩ := h
    cases opening with
    | true =>
      obtain ⟨haffects, hlinked, hcoherent, hsettled⟩ :=
        Download.asked_pollOpen (w := w) hlinked hcoherent
      exact ⟨haffects, ⟨hlinked, hcoherent⟩, hsettled⟩
    | false =>
      obtain ⟨haffects, hlinked, hcoherent, hsettled⟩ :=
        Download.asked_next (w := w) hlinked hcoherent
      exact ⟨haffects, ⟨hlinked, hcoherent⟩, hsettled⟩
  | search c =>
    have haffects := affects_search c w
    have hhears : (Line.hears ⟨.search c, wire⟩ w).1 = none := rfl
    rw [turn]
    split
    · next hpoll =>
      rw [hpoll] at haffects
      exact ⟨hhears ▸ haffects, trivial, fun _ => trivial⟩
    · next hpoll =>
      rw [hpoll] at haffects
      exact ⟨hhears ▸ haffects, trivial, fun _ => trivial⟩
  | ended => exact ⟨.nothing w, trivial, fun _ => trivial⟩

theorem Linked.giveUp (h : operation.Linked wire) : operation.giveUp.Linked wire := by
  cases operation with
  | metadata c => exact h
  | tarball d =>
    obtain ⟨hlinked, hcoherent⟩ := h
    refine ⟨?_, hcoherent.abort⟩
    cases hlinked with
    | ready hrequest houtcome => exact .ready hrequest houtcome nofun
    | underWay x timeout hrequest houtcome hsource =>
      exact .underWay x timeout hrequest houtcome hsource
    | settled hrequest houtcome hquiet => exact .settled hrequest houtcome hquiet
  | search | ended => trivial

theorem Settled.giveUp (h : operation.Settled wire) : operation.giveUp.Settled wire := by
  cases operation with
  | metadata | tarball => exact h
  | search | ended => trivial

/-- A settled operation hears nothing more. -/
theorem Settled.hears_eq (h : operation.Settled wire) :
    (Line.hears ⟨operation, wire⟩ w).1 = none := by
  cases operation with
  | metadata c =>
    obtain ⟨_, _, _, hstage⟩ | ⟨_, hstage⟩ := MetadataCall.settled_iff.1 h
    all_goals
      have hlistens : (Operation.metadata c).listens = false := by simp [listens, hstage]
      rw [Line.hears, Line.listen_of_not_listens hlistens]
  | tarball d => rw [Download.Settled.hears_eq h]
  | search | ended => rfl

theorem linked_start (url : String) (headers : Headers) (peer : Option Peer) (cancelled : Bool) :
    Linked (.tarball (Download.start w url headers peer cancelled).1) none ∧
      Affects w (Download.start w url headers peer cancelled).2 none none := by
  rw [Download.start]
  split
  · exact ⟨⟨.settled rfl rfl fun _ => rfl, rfl⟩, .nothing w⟩
  · split
    · exact ⟨⟨.settled rfl rfl fun _ => rfl, rfl⟩, .note w _⟩
    · exact ⟨⟨.ready rfl rfl fun _ => rfl, rfl⟩, .note w _⟩

end Operation

/-! ## Answers as the network gives them -/

/-- **What the network told of a request**: the answer with its number, or that there was no address
to send it to. -/
def Told (n : Network) (r : Request) (content : Except Failure Response) : Prop :=
  if r.target?.isSome then ∃ k, n.sent[k]? = some r ∧ content = (n.answers k).answer
  else content = .error .broken

/-- A network later on. -/
structure Network.Later (n n' : Network) : Prop where
  /-- It answers as before, -/
  answers_eq : n'.answers = n.answers
  /-- and more requests may have been sent. -/
  sent_prefix : n.sent <+: n'.sent

namespace Network

variable {n n' : Network} {r : Request} {content : Except Failure Response}

theorem Later.refl (n : Network) : n.Later n := ⟨rfl, List.prefix_rfl⟩

theorem later_send (n : Network) (r : Request) : n.Later (n.send r).2 := by
  rw [send]
  split
  · exact ⟨rfl, List.prefix_append ..⟩
  · exact .refl n

theorem told_send (n : Network) (r : Request) : Told (n.send r).2 r (n.send r).1.answer := by
  rw [Told, send]
  split
  · exact ⟨n.sent.length, by simp, rfl⟩
  · rfl

end Network

theorem Told.later {n n' : Network} {r : Request} {content : Except Failure Response}
    (h : Told n r content) (hlater : n.Later n') : Told n' r content := by
  by_cases htarget : r.target?.isSome = true
  · rw [Told, if_pos htarget] at h ⊢
    obtain ⟨k, hk, hcontent⟩ := h
    obtain ⟨more, hmore⟩ := hlater.sent_prefix
    refine ⟨k, ?_, hlater.answers_eq ▸ hcontent⟩
    rw [← hmore, List.getElem?_append_left (List.getElem?_eq_some_iff.1 hk).1]
    exact hk
  · rwa [Told, if_neg htarget] at h ⊢

theorem Client.World.later_networkAfter (w : World) (request : Option Request) :
    w.network.Later (w.networkAfter request) := by
  cases request with
  | none => exact .refl _
  | some r => exact w.network.later_send r

/-- The answer of an exchange does not change while it is waited for. -/
theorem Exchange.poll_answer {x x' : Exchange} {answer : Poll (Except Failure Response)}
    (h : x.poll = (answer, x')) :
    x'.answer = x.answer ∧ ∀ content, answer = .ready content → content = x.answer := by
  rw [poll] at h
  split at h
  · cases h
    exact ⟨rfl, nofun⟩
  · cases h
    exact ⟨rfl, fun content hcontent => by cases hcontent; rfl⟩
  · cases h
    exact ⟨rfl, nofun⟩

namespace Line

variable {l : Line} {w : World}

/-- The request that is out is one that the network has told of. -/
theorem sent_told (h : ∀ x, l.wire = some x → Told w.network x.request x.exchange.answer) :
    ∀ x, l.sent w = some x →
      Told (w.networkAfter (l.operation.sends w)) x.request x.exchange.answer := by
  intro x hx
  cases hsends : l.operation.sends w with
  | none =>
    rw [sent_of_sends_none hsends] at hx
    exact h x hx
  | some r =>
    rw [sent_of_sends hsends] at hx
    cases hx
    exact w.network.told_send r

/-- **A line tells what the network told**, of its request and of the answer that is heard. -/
theorem hears_told (h : ∀ x, l.wire = some x → Told w.network x.request x.exchange.answer) :
    (∀ a, (l.hears w).1 = some a →
      Told (w.networkAfter (l.operation.sends w)) a.request a.content) ∧
    ∀ x, (l.hears w).2 = some x →
      Told (w.networkAfter (l.operation.sends w)) x.request x.exchange.answer := by
  have hsent := sent_told h
  cases hlistens : l.operation.listens with
  | false =>
    rw [hears, listen_of_not_listens hlistens]
    exact ⟨by simp, hsent⟩
  | true =>
    rw [hears]
    cases hx : l.sent w with
    | none =>
      rw [listen_of_none]
      simp
    | some x =>
      have htold := hsent x hx
      obtain ⟨answer, x', hpoll⟩ : ∃ answer x', x.exchange.poll = (answer, x') := ⟨_, _, rfl⟩
      obtain ⟨hanswer, hready⟩ := Exchange.poll_answer hpoll
      cases answer with
      | ready content =>
        rw [listen_of_ready hlistens hpoll]
        refine ⟨?_, by simp⟩
        rintro _ ⟨⟩
        rwa [hready content rfl]
      | pending =>
        rw [listen_of_pending hlistens hpoll]
        refine ⟨by simp, ?_⟩
        rintro _ ⟨⟩
        rwa [hanswer]

end Line

/-! ## Workloads -/

/-- An operation at work. -/
structure Task extends Line where
  /-- How many outcomes had been counted when the breaker let it through. -/
  admitted : Option Nat := none

/-- An outcome that is counted. -/
inductive Outcome where
  /-- A task heard an answer. -/
  | answer (task : Nat) (answer : Answer) (time : Nat)
  /-- Somebody else tells. -/
  | outside (success : Bool) (time : Nat)

namespace Outcome

/-- Whether it is a success. -/
def success : Outcome → Bool
  | .answer _ a _ => a.cameBack
  | .outside success _ => success

/-- When it is counted. -/
def time : Outcome → Nat
  | .answer _ _ time | .outside _ time => time

/-- The task whose answer it is. -/
def task? : Outcome → Option Nat
  | .answer task _ _ => some task
  | .outside _ _ => none

/-- Whether there was something to hear: a request without an address to connect to is never on the
network. -/
def onNetwork : Outcome → Bool
  | .answer _ a _ => a.request.target?.isSome
  | .outside _ _ => true

end Outcome

/-- **Counts outcomes**, one after the other. -/
def Breaker.replay (b : Breaker) (ledger : List Outcome) : Breaker :=
  ledger.foldl (fun b o => (b.record o.success o.time).1) b

/-- **A client with all that it does.** -/
structure Workload where
  /-- The client, its network and its time. -/
  world : World
  /-- What it was asked for, in order. -/
  tasks : List Task := []
  /-- What was counted, oldest first. -/
  ledger : List Outcome := []

namespace Workload

/-- **What can happen.** -/
inductive Event where
  /-- A document is asked for. -/
  | metadata (name : String) (etag : Option String) (headers : Headers) (peer : Option Peer)
    (cancelled : Bool)
  /-- A tarball is asked for. -/
  | tarball (url : String) (headers : Headers) (peer : Option Peer) (cancelled : Bool)
  /-- Something is searched for. -/
  | search (query : SearchQuery) (cancelled : Bool)
  /-- A task has a turn; a download is asked to open, or for its next chunk. -/
  | turn (task : Nat) (opening : Bool)
  /-- A task is given up; it learns of it in its next turn. -/
  | giveUp (task : Nat)
  /-- A task is dropped. -/
  | drop (task : Nat)
  /-- An outcome is recorded from outside. -/
  | outcome (success : Bool)
  /-- Time passes. -/
  | pass (nanoseconds : Nat)

/-- The mark of a task that the breaker lets through now. -/
def admission (t : Workload) : Option Nat :=
  if t.world.isAvailable then some t.ledger.length else none

/-- Whether a turn asks the breaker: the first of a call does. -/
def asksBreaker : Operation → Bool
  | .metadata { stage := .start, .. } => true
  | _ => false

/-- A task has its turn. -/
def turn (t : Workload) (i : Nat) (opening : Bool) (task : Task) : Workload :=
  let (operation, world) := task.operation.turn opening t.world
  let (answer, wire) := task.hears t.world
  let admitted := if asksBreaker task.operation then t.admission else task.admitted
  { world
    tasks := t.tasks.set i { operation, wire, admitted }
    ledger := t.ledger ++ (answer.map fun a => .answer i a t.world.clock).toList }

/-- **What happens then.** -/
def act (t : Workload) : Event → Workload
  | .metadata name etag headers peer cancelled =>
    let call := { name, etag, headers, peer, cancelled }
    { t with tasks := t.tasks ++ [{ operation := .metadata call }] }
  | .tarball url headers peer cancelled =>
    let (download, world) := Download.start t.world url headers peer cancelled
    let task := { operation := .tarball download, admitted := t.admission }
    { t with world, tasks := t.tasks ++ [task] }
  | .search query cancelled =>
    { t with tasks := t.tasks ++ [{ operation := .search { query, cancelled } }] }
  | .turn i opening =>
    match t.tasks[i]? with
    | some task => t.turn i opening task
    | none => t
  | .giveUp i =>
    { t with tasks := t.tasks.modify i fun k => { k with operation := k.operation.giveUp } }
  | .drop i => { t with tasks := t.tasks.modify i fun k => { k with operation := .ended } }
  | .outcome success =>
    { t with
      world := t.world.record success
      ledger := t.ledger ++ [.outside success t.world.clock] }
  | .pass nanoseconds =>
    { t with world := { t.world with clock := t.world.clock + nanoseconds } }

/-- **What has become of a client** after all that happened. -/
def run (w : World) (events : List Event) : Workload := events.foldl act { world := w }

/-! ## What every run keeps -/

/-- **What is kept**: the breaker has counted the ledger. -/
structure Kept (start : Breaker) (t : Workload) : Prop where
  /-- Every task goes together with its request. -/
  linked : ∀ (i : Nat) (task : Task), t.tasks[i]? = some task → task.operation.Linked task.wire
  /-- The requests are what the network made of them. -/
  told : ∀ (i : Nat) (task : Task), t.tasks[i]? = some task → ∀ x, task.wire = some x →
    Told t.world.network x.request x.exchange.answer
  /-- The breaker has counted the ledger. -/
  breaker_eq : t.world.client.breaker = start.replay t.ledger
  /-- The answers in the ledger are what the network told. -/
  answers_told : ∀ i a time, .answer i a time ∈ t.ledger → Told t.world.network a.request a.content
  /-- Whoever has its answer hears no other. -/
  settled : ∀ i a time, .answer i a time ∈ t.ledger →
    ∃ task, t.tasks[i]? = some task ∧ task.operation.Settled task.wire
  /-- No task has two answers. -/
  once : (t.ledger.filterMap Outcome.task?).Nodup

theorem replay_append (b : Breaker) (ledger : List Outcome) (o : Outcome) :
    b.replay (ledger ++ [o]) = ((b.replay ledger).record o.success o.time).1 := by
  rw [Breaker.replay, List.foldl_append]
  rfl

theorem kept_start (w : World) : Kept w.client.breaker { world := w } where
  linked i task h := by cases h
  told i task h := by cases h
  breaker_eq := rfl
  answers_told := nofun
  settled := nofun
  once := .nil

/-! ## A turn -/

section Turn

variable {t : Workload} {i j : Nat} {opening : Bool} {task : Task}

theorem getElem?_turn_self (opening : Bool) (htask : t.tasks[i]? = some task) :
    (t.turn i opening task).tasks[i]? = some {
      operation := (task.operation.turn opening t.world).1
      wire := (task.hears t.world).2
      admitted := if asksBreaker task.operation then t.admission else task.admitted } := by
  rw [turn, List.getElem?_set_self (List.getElem?_eq_some_iff.1 htask).1]

theorem getElem?_turn_of_ne (hj : j ≠ i) :
    (t.turn i opening task).tasks[j]? = t.tasks[j]? :=
  List.getElem?_set_ne (Ne.symm hj)

theorem ledger_turn (t : Workload) (i : Nat) (opening : Bool) (task : Task) :
    (t.turn i opening task).ledger = t.ledger ++
      ((task.hears t.world).1.map fun a => .answer i a t.world.clock).toList := rfl

/-- Nobody but the task that has its turn hears an answer. -/
theorem answer_mem_turn {a : Answer} {time : Nat}
    (h : .answer j a time ∈ (t.turn i opening task).ledger) :
    .answer j a time ∈ t.ledger ∨ j = i ∧ (task.hears t.world).1 = some a := by
  rcases List.mem_append.1 h with h | h
  · exact .inl h
  · obtain ⟨b, hb, heq⟩ := Option.map_eq_some_iff.1 (Option.mem_toList.1 h)
    cases heq
    exact .inr ⟨rfl, hb⟩

end Turn

namespace Kept

variable {start : Breaker} {t : Workload}

/-- What is kept when another task comes, and nothing else changes but the log. -/
theorem add (h : Kept start t) {w : World} (haffects : Affects t.world w none none) {task : Task}
    (hlinked : task.operation.Linked none) (hwire : task.wire = none) :
    Kept start { t with world := w, tasks := t.tasks ++ [task] } := by
  have hnew : ∀ (i : Nat) (x : Task), (t.tasks ++ [task])[i]? = some x →
      t.tasks[i]? = some x ∨ x = task := by
    intro i x hx
    rw [List.getElem?_append] at hx
    split at hx
    · exact .inl hx
    · exact .inr (List.mem_singleton.1 (List.mem_of_getElem? hx))
  constructor
  · intro i x hx
    obtain hx | rfl := hnew i x hx
    · exact h.linked i x hx
    · rwa [hwire]
  · intro i x hx wire hwire'
    rw [haffects.network_eq]
    obtain hx | rfl := hnew i x hx
    · exact h.told i x hx wire hwire'
    · cases hwire.symm.trans hwire'
  · exact haffects.breaker_eq.trans h.breaker_eq
  · intro i a time hmem
    rw [haffects.network_eq]
    exact h.answers_told i a time hmem
  · intro i a time hmem
    obtain ⟨x, hx, hsettled⟩ := h.settled i a time hmem
    refine ⟨x, ?_, hsettled⟩
    rw [List.getElem?_append_left (List.getElem?_eq_some_iff.1 hx).1, hx]
  · exact h.once

/-- What is kept when a task changes without its request. -/
theorem modify (h : Kept start t) (i : Nat) {f : Task → Task}
    (hlinked : ∀ task : Task, task.operation.Linked task.wire →
      (f task).operation.Linked (f task).wire)
    (hsettled : ∀ task : Task, task.operation.Settled task.wire →
      (f task).operation.Settled (f task).wire)
    (hwire : ∀ task, (f task).wire = task.wire) :
    Kept start { t with tasks := t.tasks.modify i f } := by
  have hold : ∀ (j : Nat) (x : Task), (t.tasks.modify i f)[j]? = some x →
      ∃ y, t.tasks[j]? = some y ∧ (x = f y ∨ x = y) := by
    intro j x hx
    rw [List.getElem?_modify] at hx
    obtain ⟨y, hy, rfl⟩ := Option.map_eq_some_iff.1 hx
    refine ⟨y, hy, ?_⟩
    split
    · exact .inl rfl
    · exact .inr rfl
  constructor
  · intro j x hx
    obtain ⟨y, hy, rfl | rfl⟩ := hold j x hx
    · exact hlinked y (h.linked j y hy)
    · exact h.linked j x hy
  · intro j x hx wire hwire'
    obtain ⟨y, hy, rfl | rfl⟩ := hold j x hx
    · exact h.told j y hy wire (hwire y ▸ hwire')
    · exact h.told j x hy wire hwire'
  · exact h.breaker_eq
  · exact h.answers_told
  · intro j a time hmem
    obtain ⟨x, hx, hx'⟩ := h.settled j a time hmem
    refine ⟨if i = j then f x else x, ?_, ?_⟩
    · rw [List.getElem?_modify, hx]
      rfl
    · split
      · exact hsettled x hx'
      · exact hx'
  · exact h.once

theorem outcome (h : Kept start t) (success : Bool) : Kept start (t.act (.outcome success)) := by
  have hold : ∀ i a time, .answer i a time ∈ t.ledger ++ [.outside success t.world.clock] →
      .answer i a time ∈ t.ledger := by
    intro i a time hmem
    rcases List.mem_append.1 hmem with hmem | hmem
    · exact hmem
    · cases List.mem_singleton.1 hmem
  constructor
  · exact h.linked
  · exact h.told
  · rw [act, replay_append, ← h.breaker_eq]
    rfl
  · exact fun i a time hmem => h.answers_told i a time (hold i a time hmem)
  · exact fun i a time hmem => h.settled i a time (hold i a time hmem)
  · rw [act, List.filterMap_append]
    exact (List.append_nil _).symm ▸ h.once

theorem pass (h : Kept start t) (nanoseconds : Nat) : Kept start (t.act (.pass nanoseconds)) :=
  ⟨h.linked, h.told, h.breaker_eq, h.answers_told, h.settled, h.once⟩

section Turn

variable {i : Nat} {task : Task}

/-- A task that has an answer hears no other. -/
theorem once_turn (h : Kept start t) (opening : Bool) (htask : t.tasks[i]? = some task) :
    ((t.turn i opening task).ledger.filterMap Outcome.task?).Nodup := by
  rw [ledger_turn]
  cases hheard : (task.hears t.world).1 with
  | none => exact (List.append_nil t.ledger).symm ▸ h.once
  | some a =>
    rw [Option.map_some, Option.toList_some, List.filterMap_append]
    refine List.nodup_append.2 ⟨h.once, List.pairwise_singleton .., ?_⟩
    rintro j hj k hk rfl
    obtain rfl := List.mem_singleton.1 hk
    obtain ⟨o, ho, htask?⟩ := List.mem_filterMap.1 hj
    cases o with
    | outside => cases htask?
    | answer j b time =>
      cases htask?
      obtain ⟨x, hx, hsettled⟩ := h.settled _ b time ho
      obtain rfl := Option.some.inj (htask.symm.trans hx)
      cases hsettled.hears_eq.symm.trans hheard

/-- What is heard in a turn is counted. -/
theorem breaker_eq_turn (h : Kept start t) (opening : Bool) (htask : t.tasks[i]? = some task) :
    (t.turn i opening task).world.client.breaker =
      start.replay (t.turn i opening task).ledger := by
  have hturned := Operation.turned (w := t.world) (h.linked i task htask) opening
  refine hturned.affects.breaker_eq.trans ?_
  rw [ledger_turn]
  cases (task.hears t.world).1 with
  | none => exact h.breaker_eq.trans (congrArg start.replay (List.append_nil _).symm)
  | some a =>
    rw [Option.map_some, Option.toList_some, replay_append, ← h.breaker_eq]
    rfl

/-- **A turn keeps it.** -/
theorem turn (h : Kept start t) (opening : Bool) (htask : t.tasks[i]? = some task) :
    Kept start (t.turn i opening task) := by
  have hturned := Operation.turned (w := t.world) (h.linked i task htask) opening
  obtain ⟨hanswer, hwire⟩ := Line.hears_told (h.told i task htask)
  have hlater := t.world.later_networkAfter (task.operation.sends t.world)
  rw [← hturned.affects.network_eq] at hanswer hwire hlater
  have hself := getElem?_turn_self opening htask
  constructor
  · intro j x hx
    by_cases hj : j = i
    · subst hj
      obtain rfl := Option.some.inj (hself.symm.trans hx)
      exact hturned.linked
    · exact h.linked j x (getElem?_turn_of_ne hj ▸ hx)
  · intro j x hx wire hwire'
    by_cases hj : j = i
    · subst hj
      obtain rfl := Option.some.inj (hself.symm.trans hx)
      exact hwire wire hwire'
    · exact (h.told j x (getElem?_turn_of_ne hj ▸ hx) wire hwire').later hlater
  · exact h.breaker_eq_turn opening htask
  · intro j a time hmem
    obtain hmem | ⟨rfl, ha⟩ := answer_mem_turn hmem
    · exact (h.answers_told j a time hmem).later hlater
    · exact hanswer a ha
  · intro j a time hmem
    obtain hmem | ⟨rfl, ha⟩ := answer_mem_turn hmem
    · obtain ⟨x, hx, hsettled⟩ := h.settled j a time hmem
      by_cases hj : j = i
      · subst hj
        obtain rfl := Option.some.inj (htask.symm.trans hx)
        exact ⟨_, hself, hturned.settled (.inr hsettled)⟩
      · exact ⟨x, (getElem?_turn_of_ne hj).trans hx, hsettled⟩
    · exact ⟨_, hself, hturned.settled (.inl (ha ▸ rfl))⟩
  · exact h.once_turn opening htask

end Turn

/-- **Whatever happens keeps it.** -/
theorem act (h : Kept start t) (event : Event) : Kept start (t.act event) := by
  cases event with
  | metadata name etag headers peer cancelled => exact h.add (.nothing _) rfl rfl
  | tarball url headers peer cancelled =>
    obtain ⟨hlinked, haffects⟩ := Operation.linked_start (w := t.world) url headers peer cancelled
    exact h.add haffects hlinked rfl
  | search query cancelled => exact h.add (.nothing _) trivial rfl
  | turn i opening =>
    rw [Workload.act]
    split
    · next task htask => exact h.turn opening htask
    · exact h
  | giveUp i =>
    exact h.modify i (fun _ hlinked => hlinked.giveUp) (fun _ hsettled => hsettled.giveUp)
      fun _ => rfl
  | drop i => exact h.modify i (fun _ _ => trivial) (fun _ _ => trivial) fun _ => rfl
  | outcome success => exact h.outcome success
  | pass nanoseconds => exact h.pass nanoseconds

end Kept

theorem kept_run (w : World) (events : List Event) : Kept w.client.breaker (run w events) := by
  rw [run]
  generalize hstart : ({ world := w } : Workload) = t
  have hkept : Kept w.client.breaker t := hstart ▸ kept_start w
  clear hstart
  induction events generalizing t with
  | nil => exact hkept
  | cons event events ih => exact ih (t.act event) (hkept.act event)

end Workload

end RegistryProxy
