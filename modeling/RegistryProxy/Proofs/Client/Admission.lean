import RegistryProxy.Proofs.Client.Counting
import RegistryProxy.Proofs.Uplink.History

/-!
# Proofs/Client/Admission — what the breaker lets through

The breaker is asked before a request is made ready, and the request goes out in a later turn.  So
every request of a call or a download was let through by the breaker (`let_through`), but outcomes
that are counted in between may have opened it, and the request goes out all the same
(`sent_while_open`).
-/

namespace RegistryProxy

open Client (World)

/-! ## Requests that are ready -/

/-- A call makes its request ready when it is let through, and in no other turn. -/
theorem MetadataCall.asking_of_step {c : MetadataCall} {w : World} {request : Request}
    (h : (c.step w).2.1.stage = .asking request) : c.stage = .start ∧ w.isAvailable = true := by
  have hnever : ¬ (c.step w).2.1.Settled := by
    rw [Settled, h]
    exact id
  have hunsettled (hsettled : c.Settled) : False :=
    hnever ((stepped (w := w) (hsettled.linked none)).settled (.inr hsettled))
  cases hstage : c.stage with
  | start =>
    have hstep : c.step w = c.prepare w := by rw [step, hstage]
    rw [hstep] at h
    obtain ⟨_, hover⟩ | ⟨_, -, havailable⟩ := (c.prepare_cases w).2
    · cases hover.symm.trans h
    · exact ⟨rfl, havailable⟩
  | asking _ =>
    rw [step, hstage] at h
    dsimp only at h
    split at h <;> cases h
  | sending x =>
    cases hcancelled : c.cancelled with
    | true =>
      rw [step, hstage] at h
      simp only [hcancelled] at h
      cases h
    | false =>
      obtain ⟨answer, x', hpoll⟩ : ∃ answer x', x.poll = (answer, x') := ⟨_, _, rfl⟩
      cases answer with
      | ready content =>
        rw [step_of_ready hstage hcancelled hpoll] at hnever
        exact (hnever (c.answered_cases _ w ⟨{ url := "" }, content⟩).2).elim
      | pending =>
        rw [step_of_pending hstage hcancelled hpoll] at h
        cases h
  | reading => exact (hunsettled (settled_iff.2 (.inl ⟨_, _, _, hstage⟩))).elim
  | _ => exact (hunsettled (settled_iff.2 (.inr ⟨_, hstage⟩))).elim

namespace Download

variable {d : Download} {w : World} {request : Request}

theorem request_of_connect (h : (d.connect w).1.request = some request) :
    d.request = some request := by
  rw [connect] at h
  split at h
  · cases h
  · exact h

theorem request_count (d : Download) (w : World) : (d.count w).1.request = d.request := by
  rw [count]
  split <;> rfl

theorem request_of_pollOpen (h : (d.pollOpen w).2.1.request = some request) :
    d.request = some request := by
  rw [pollOpen, request_count] at h
  exact request_of_connect h

theorem request_of_next (h : (d.next w).2.1.request = some request) : d.request = some request := by
  rw [next, request_count] at h
  exact request_of_connect h

/-- A download that is refused has no request. -/
theorem isAvailable_of_start {url : String} {headers : Headers} {peer : Option Peer}
    {cancelled : Bool} (h : (start w url headers peer cancelled).1.request = some request) :
    w.isAvailable = true := by
  rw [start] at h
  split at h
  · cases h
  next havailable => simpa using havailable

end Download

namespace Operation

variable {operation : Operation} {w : World}

/-- A call or a download has a request ready that has not gone out. -/
def IsReady : Operation → Prop
  | .metadata c => ∃ request, c.stage = .asking request
  | .tarball d => ∃ request, d.request = some request
  | .search _ | .ended => False

/-- Only what is ready goes out, but for searches. -/
theorem isReady_of_sends {request : Request} (h : operation.sends w = some request) :
    (∃ c, operation = .search c) ∨ operation.IsReady := by
  cases operation with
  | metadata c =>
    rw [sends] at h
    split at h
    next hstage => exact .inr ⟨_, hstage⟩
    next => cases h
  | tarball d =>
    rw [sends] at h
    split at h
    · cases h
    · exact .inr ⟨_, h⟩
  | search c => exact .inl ⟨c, rfl⟩
  | ended => cases h

theorem isReady_of_giveUp (h : operation.giveUp.IsReady) : operation.IsReady := by
  cases operation <;> exact h

theorem asksBreaker_of_start {c : MetadataCall} (h : c.stage = .start) :
    Workload.asksBreaker (.metadata c) = true := by
  obtain ⟨_, _, _, _, _, stage⟩ := c
  cases h
  rfl

/-- **A request becomes ready in the turn in which the breaker lets it through.** -/
theorem isReady_of_turn {opening : Bool} (h : (operation.turn opening w).1.IsReady) :
    (Workload.asksBreaker operation = true ∧ w.isAvailable = true) ∨
      (Workload.asksBreaker operation = false ∧ operation.IsReady) := by
  cases operation with
  | metadata c =>
    obtain ⟨request, h⟩ := h
    obtain ⟨hstart, havailable⟩ := MetadataCall.asking_of_step h
    exact .inl ⟨asksBreaker_of_start hstart, havailable⟩
  | tarball d =>
    refine .inr ⟨rfl, ?_⟩
    rw [turn] at h
    split at h
    · obtain ⟨request, h⟩ := h
      exact ⟨request, Download.request_of_pollOpen h⟩
    · obtain ⟨request, h⟩ := h
      exact ⟨request, Download.request_of_next h⟩
  | search c =>
    rw [turn] at h
    split at h <;> exact h.elim
  | ended => exact h.elim

end Operation

/-! ## Tasks that are let through -/

namespace Workload

variable {start : Breaker} {t t' : Workload} {task : Task} {admitted : Option Nat}

/-- **The breaker has let a task through**, at a time at which it had counted so many outcomes. -/
def LetThrough (start : Breaker) (t : Workload) (admitted : Option Nat) : Prop :=
  ∃ count time, admitted = some count ∧ count ≤ t.ledger.length ∧ time ≤ t.world.clock ∧
    (start.replay (t.ledger.take count)).isAvailableAt time = true

/-- What was let through stays so. -/
theorem LetThrough.later (h : LetThrough start t admitted) (hledger : t.ledger <+: t'.ledger)
    (hclock : t.world.clock ≤ t'.world.clock) : LetThrough start t' admitted := by
  obtain ⟨count, time, hadmitted, hcount, htime, havailable⟩ := h
  obtain ⟨more, hmore⟩ := hledger
  refine ⟨count, time, hadmitted, ?_, Nat.le_trans htime hclock, ?_⟩
  · rw [← hmore, List.length_append]
    exact Nat.le_trans hcount (Nat.le_add_right _ _)
  · rwa [← hmore, List.take_append_of_le_length hcount]

/-- What the breaker lets through now. -/
theorem letThrough_now (hkept : Kept start t) (havailable : t.world.isAvailable = true) :
    LetThrough start t t.admission := by
  refine ⟨t.ledger.length, t.world.clock, if_pos havailable, Nat.le_refl _, Nat.le_refl _, ?_⟩
  rw [List.take_length, ← hkept.breaker_eq]
  exact havailable

/-- **Whatever is ready was let through.** -/
def Screened (start : Breaker) (t : Workload) : Prop :=
  ∀ task ∈ t.tasks, task.operation.IsReady → LetThrough start t task.admitted

namespace Screened

theorem add (h : Screened start t) {w : World} (hclock : t.world.clock ≤ w.clock)
    (hnew : task.operation.IsReady → LetThrough start t task.admitted) :
    Screened start { t with world := w, tasks := t.tasks ++ [task] } := by
  intro x hx hready
  refine LetThrough.later (t := t) ?_ List.prefix_rfl hclock
  rcases List.mem_append.1 hx with hx | hx
  · exact h x hx hready
  · obtain rfl := List.mem_singleton.1 hx
    exact hnew hready

theorem modify (h : Screened start t) (i : Nat) {f : Task → Task}
    (hready : ∀ task, (f task).operation.IsReady → task.operation.IsReady)
    (hadmitted : ∀ task, (f task).admitted = task.admitted) :
    Screened start { t with tasks := t.tasks.modify i f } := by
  intro x hx hx'
  obtain ⟨j, hj⟩ := List.mem_iff_getElem?.1 hx
  rw [List.getElem?_modify] at hj
  obtain ⟨y, hy, rfl⟩ := Option.map_eq_some_iff.1 hj
  have hmem := List.mem_of_getElem? hy
  by_cases hij : i = j
  · rw [if_pos hij] at hx' ⊢
    rw [hadmitted]
    exact h y hmem (hready y hx')
  · rw [if_neg hij] at hx' ⊢
    exact h y hmem hx'

theorem turn (h : Screened start t) (hkept : Kept start t) {i : Nat} (opening : Bool)
    (htask : t.tasks[i]? = some task) : Screened start (t.turn i opening task) := by
  have haffects := (Operation.turned (w := t.world) (hkept.linked i task htask) opening).affects
  intro x hx hready
  refine LetThrough.later (t := t) ?_ (List.prefix_append ..) (Nat.le_of_eq haffects.clock_eq.symm)
  rcases List.mem_or_eq_of_mem_set hx with hx | rfl
  · exact h x hx hready
  obtain ⟨hasks, havailable⟩ | ⟨hasks, hready⟩ := Operation.isReady_of_turn hready
  · rw [if_pos hasks]
    exact letThrough_now hkept havailable
  · rw [if_neg (Bool.eq_false_iff.1 hasks)]
    exact h task (List.mem_of_getElem? htask) hready

/-- **Whatever happens keeps it.** -/
theorem act (h : Screened start t) (hkept : Kept start t) (event : Event) :
    Screened start (t.act event) := by
  cases event with
  | metadata name etag headers peer cancelled => exact h.add (Nat.le_refl _) nofun
  | tarball url headers peer cancelled =>
    have haffects := (Operation.linked_start (w := t.world) url headers peer cancelled).2
    refine h.add (Nat.le_of_eq haffects.clock_eq.symm) fun ⟨_, hrequest⟩ => ?_
    exact letThrough_now hkept (Download.isAvailable_of_start hrequest)
  | search query cancelled => exact h.add (Nat.le_refl _) nofun
  | turn i opening =>
    rw [Workload.act]
    split
    next task htask => exact h.turn hkept opening htask
    next => exact h
  | giveUp i => exact h.modify i (fun _ => Operation.isReady_of_giveUp) fun _ => rfl
  | drop i => exact h.modify i (fun _ => False.elim) fun _ => rfl
  | outcome success =>
    exact fun x hx hready => (h x hx hready).later (List.prefix_append ..) (Nat.le_refl _)
  | pass nanoseconds =>
    exact fun x hx hready => (h x hx hready).later List.prefix_rfl (Nat.le_add_right _ _)

end Screened

theorem screened_start (start : Breaker) (w : World) : Screened start { world := w } := by
  intro task htask
  cases htask

theorem screened_run (w : World) (events : List Event) :
    Screened w.client.breaker (run w events) := by
  rw [run]
  generalize hstart : ({ world := w } : Workload) = t
  have hkept : Kept w.client.breaker t := hstart ▸ kept_start w
  have hscreened : Screened w.client.breaker t := hstart ▸ screened_start _ w
  clear hstart
  induction events generalizing t with
  | nil => exact hscreened
  | cons event events ih =>
    exact ih (t.act event) (hkept.act event) (hscreened.act hkept event)

/-- **No request of a call or a download goes out that the breaker has not let through.**  It did so
at a time at which it had counted so many outcomes; if it is open when the request goes out, it has
counted more of them since. -/
theorem let_through (w : World) (events : List Event) {i : Nat} {task : Task} {opening : Bool}
    (htask : (run w events).tasks[i]? = some task)
    (hsent : ((run w events).turn i opening task).world.network.sent ≠
      (run w events).world.network.sent) :
    (∃ c, task.operation = .search c) ∨
      ∃ count time, task.admitted = some count ∧ count ≤ (run w events).ledger.length ∧
        time ≤ (run w events).world.clock ∧
        (w.client.breaker.replay ((run w events).ledger.take count)).isAvailableAt time = true ∧
        ((run w events).world.isAvailable = false → count < (run w events).ledger.length) := by
  have hkept := kept_run w events
  have hnetwork := (Operation.turned (w := (run w events).world) (hkept.linked i task htask)
    opening).affects.network_eq
  generalize hrun : run w events = t at *
  cases hsends : task.operation.sends t.world with
  | none =>
    rw [hsends] at hnetwork
    exact absurd (congrArg Network.sent hnetwork) hsent
  | some request =>
    refine (Operation.isReady_of_sends hsends).imp_right fun hready => ?_
    obtain ⟨count, time, hadmitted, hcount, htime, havailable⟩ :=
      hrun ▸ screened_run w events task (List.mem_of_getElem? (hrun ▸ htask)) hready
    refine ⟨count, time, hadmitted, hcount, htime, havailable, fun hopen => ?_⟩
    refine Nat.lt_of_le_of_ne hcount fun hsame => ?_
    -- Without more outcomes it is the same breaker, at a later time.
    rw [hsame, List.take_length, ← hkept.breaker_eq] at havailable
    exact Bool.false_ne_true (hopen.symm.trans (Breaker.isAvailableAt_of_le havailable htime))

theorem act_turn {t : Workload} {i : Nat} {task : Task} (htask : t.tasks[i]? = some task)
    (opening : Bool) : t.act (.turn i opening) = t.turn i opening task := by
  rw [act, htask]

/-- A download is started, and then two failures open the breaker. -/
def overtaken : List Event :=
  [.tarball "http://[::1]/p.tgz" ∅ none false, .outcome false, .outcome false]

/-- It was let through when nothing was counted, and sends its request when two outcomes are. -/
theorem let_through_overtaken :
    ∃ (task : Task) (count : Nat), (run idle overtaken).tasks[0]? = some task ∧
      ((run idle overtaken).turn 0 false task).world.network.sent ≠
        (run idle overtaken).world.network.sent ∧
      task.admitted = some count ∧ count < (run idle overtaken).ledger.length := by
  have hopen : (run idle overtaken).world.isAvailable = false := by decide +kernel
  have htasks : (run idle overtaken).tasks.map (fun task => task.operation.listens) = [true] := by
    decide +kernel
  have hsent : ((run idle overtaken).act (.turn 0 false)).world.network.sent ≠
      (run idle overtaken).world.network.sent := by
    decide +kernel
  have hthrough (task : Task) := @let_through idle overtaken 0 task false
  -- What the run comes to is too large a term for what follows.
  generalize run idle overtaken = t at *
  obtain ⟨task, htask, hlistens⟩ := List.map_eq_singleton_iff.1 htasks
  have hfirst : t.tasks[0]? = some task := by
    rw [htask]
    rfl
  rw [act_turn hfirst] at hsent
  obtain ⟨c, hsearch⟩ | ⟨count, time, hadmitted, -, -, -, hlater⟩ := hthrough task hfirst hsent
  · rw [hsearch] at hlistens
    cases hlistens
  · exact ⟨task, count, hfirst, hsent, hadmitted, hlater hopen⟩

/-- **A request goes out while the breaker is open**: that of a download which is asked for the
first time then. -/
theorem sent_while_open :
    (run idle overtaken).world.client.breaker.stateAt (run idle overtaken).world.clock = .opened ∧
      (run idle overtaken).world.network.sent = [] ∧
      ((run idle overtaken).act (.turn 0 false)).world.network.sent ≠ [] := by
  decide +kernel

end Workload

end RegistryProxy
