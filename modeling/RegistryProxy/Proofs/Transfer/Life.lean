import RegistryProxy.Transfer.Stream

/-!
# Proofs/Transfer/Life — how a stream lives and ends

`Asked` says once what asking a stream for its next chunk can give.  In every stream that was ever
made (`Reached`) the source and the stage tell the same (`Coherent`), so the item tells how a stream
fares: after a chunk or none yet it lives, after a failure it is dead, and after the end it is
complete, unless it was over before (`next_end`).
-/

namespace RegistryProxy

namespace Stage

/-- Whether a stream at this stage was given up or has failed. -/
def isDead : Stage → Bool
  | .aborted | .errored => true
  | .opening | .transferring | .completed => false

/-- Whether a stream at this stage has more to give. -/
def isLive : Stage → Bool
  | .opening | .transferring => true
  | .completed | .aborted | .errored => false

theorem eq_completed {stage : Stage} (hlive : stage.isLive = false) (hdead : stage.isDead = false) :
    stage = .completed := by
  cases stage with
  | completed => rfl
  | opening | transferring => cases hlive
  | aborted | errored => cases hdead

theorem isLive_eq_false_of_isDead {stage : Stage} (h : stage.isDead = true) :
    stage.isLive = false := by
  cases stage <;> first | rfl | cases h

theorem isDead_eq_false_of_isLive {stage : Stage} (h : stage.isLive = true) :
    stage.isDead = false := by
  cases stage <;> first | rfl | cases h

end Stage

namespace Stream

variable {s : Stream} {turn : Turn} {e : Error}

/-- **Where a stream comes from**: it is made, and then opened, asked and aborted in any order. -/
inductive Reached : Stream → Prop
  | ofOpening (o : Opening) : Reached (ofOpening o)
  | ofBody (body : Body) (length : Option Nat) : Reached (ofBody body length)
  | pollOpen {s : Stream} (reached : Reached s) : Reached s.pollOpen.2
  | next {s : Stream} (reached : Reached s) : Reached s.next.stream
  | abort {s : Stream} (reached : Reached s) : Reached s.abort

/-- The source and the stage tell the same. -/
def Coherent (s : Stream) : Prop :=
  match s.source with
  | .opening _ => s.stage = .opening
  | .body _ => s.stage = .transferring
  | .spent => s.stage.isLive = false

/-- **The end of a coherent stream**: it is spent if and only if it is over. -/
theorem Coherent.source_eq_spent_iff (h : s.Coherent) :
    s.source = .spent ↔ s.stage.isLive = false := by
  rw [Coherent] at h
  split at h
  · next hsource => simp [hsource, h, Stage.isLive]
  · next hsource => simp [hsource, h, Stage.isLive]
  · next hsource => simp [hsource, h]

theorem Coherent.abort (h : s.Coherent) : s.abort.Coherent := h

/-! ## What asking gives -/

/-- **What opening a stream can give.** -/
inductive Opens (s : Stream) : Poll (Except Error (Option Nat)) × Stream → Prop
  | before (answer : Except Error (Option Nat)) (stage : s.stage ≠ .opening) :
    Opens s (.ready answer, s)
  | aborted (stage : s.stage = .opening) (cancelled : s.cancelled = true) :
    Opens s (.ready (.error abortedWhileOpening), s.endAt .aborted)
  | waits (o o' : Opening) (stage : s.stage = .opening) (cancelled : s.cancelled = false)
    (source : s.source = .opening o) (poll : o.poll = (.pending, o')) :
    Opens s (.pending, { s with source := .opening o' })
  | opened (o o' : Opening) (opened : Opened) (stage : s.stage = .opening)
    (cancelled : s.cancelled = false) (source : s.source = .opening o)
    (poll : o.poll = (.ready (.ok opened), o')) :
    Opens s (.ready (.ok opened.length),
      { s with source := .body opened.body, stage := .transferring, expected := opened.length })
  | refused (o o' : Opening) (e : Error) (stage : s.stage = .opening)
    (cancelled : s.cancelled = false) (source : s.source = .opening o)
    (poll : o.poll = (.ready (.error e), o')) :
    Opens s (.ready (.error e), s.endAt .errored)
  | nothing (stage : s.stage = .opening) (source : ∀ o, s.source ≠ .opening o) :
    Opens s (.ready (.ok s.expected), s)

theorem opens_pollOpen (s : Stream) : Opens s s.pollOpen := by
  rw [pollOpen]
  split
  case h_1 hstage | h_2 hstage | h_3 hstage | h_4 hstage => exact .before _ (by simp [hstage])
  case h_5 hstage =>
    split
    · next hcancelled => exact .aborted hstage hcancelled
    · next hcancelled =>
      have hcancelled : s.cancelled = false := by simpa using hcancelled
      split
      · next o hsource =>
        split
        · next o' hpoll => exact .waits o o' hstage hcancelled hsource hpoll
        · next opened o' hpoll => exact .opened o o' opened hstage hcancelled hsource hpoll
        · next e o' hpoll => exact .refused o o' e hstage hcancelled hsource hpoll
      · next hsource => exact .nothing hstage fun o ho => hsource o ho

/-- A stream whose source has opened, now or before. -/
inductive Flows (s : Stream) : Stream → Body → Prop
  | before (body : Body) (source : s.source = .body body) : Flows s s body
  | now (o o' : Opening) (opened : Opened) (source : s.source = .opening o)
    (poll : o.poll = (.ready (.ok opened), o')) :
    Flows s {
        s with source := .body opened.body, stage := .transferring, expected := opened.length }
      opened.body

/-- **What asking a stream once can give.** -/
inductive Asked (s : Stream) : Turn → Prop
  | nothing (source : s.source = .spent) : Asked s { item := .ready none, stream := s }
  | aborted (source : s.source ≠ .spent) (cancelled : s.cancelled = true) :
    Asked s { item := .ready (some (.error abortedError)), stream := s.endAt .aborted }
  | opening (o o' : Opening) (cancelled : s.cancelled = false) (source : s.source = .opening o)
    (poll : o.poll = (.pending, o')) :
    Asked s { item := .pending, stream := { s with source := .opening o' } }
  | refused (o o' : Opening) (e : Error) (cancelled : s.cancelled = false)
    (source : s.source = .opening o) (poll : o.poll = (.ready (.error e), o')) :
    Asked s { item := .ready (some (.error e)), stream := s.endAt .errored }
  | body (s' : Stream) (body : Body) (cancelled : s.cancelled = false) (flows : Flows s s' body) :
    Asked s (s'.pollBody body)

theorem asked_next (h : s.Coherent) : Asked s s.next := by
  rw [next]
  split
  · next hsource => exact .nothing hsource
  · next body hsource =>
    split
    · next hcancelled => exact .aborted (by simp [hsource]) hcancelled
    · next hcancelled => exact .body s body (by simpa using hcancelled) (.before body hsource)
  · next o hsource =>
    have hstage : s.stage = .opening := by simpa only [Coherent, hsource] using h
    split
    · next hcancelled => exact .aborted (by simp [hsource]) hcancelled
    · next hcancelled =>
      have hopens := s.opens_pollOpen
      generalize s.pollOpen = x at hopens
      cases hopens with
      | before answer hne => exact absurd hstage hne
      | aborted _ hcancelled' => exact absurd hcancelled' hcancelled
      | waits o o' _ hcancelled hsource hpoll => exact .opening o o' hcancelled hsource hpoll
      | opened o o' opened _ hcancelled hsource hpoll =>
        exact .body _ opened.body hcancelled (.now o o' opened hsource hpoll)
      | refused o o' e _ hcancelled hsource hpoll => exact .refused o o' e hcancelled hsource hpoll
      | nothing _ hsource' => exact absurd hsource (hsource' o)

/-- A stream that flows has its body at hand. -/
theorem Flows.coherent {s' : Stream} {body : Body} (hflows : Flows s s' body) (h : s.Coherent) :
    s'.source = .body body ∧ s'.stage = .transferring := by
  cases hflows with
  | before body hsource => exact ⟨hsource, by simpa only [Coherent, hsource] using h⟩
  | now => exact ⟨rfl, rfl⟩

/-- **What asking the body of a stream once can give.** -/
inductive Carries (s : Stream) (body : Body) : Turn → Prop
  | waits (rest : Body) (poll : body.poll = (.pending, rest)) :
    Carries s body { item := .pending, stream := { s with source := .body rest } }
  | chunk (data : Bytes) (rest : Body) (poll : body.poll = (.ready (some (.ok data)), rest)) :
    Carries s body {
      item := .ready (some (.ok data))
      stream := { s with source := .body rest, observed := s.observed + data.length } }
  | fails (e : Error) (rest : Body) (poll : body.poll = (.ready (some (.error e)), rest)) :
    Carries s body { item := .ready (some (.error e)), stream := s.endAt .errored }
  | completes (rest : Body) (poll : body.poll = (.ready none, rest))
    (length : ∀ n, s.expected = some n → n = s.observed) :
    Carries s body { item := .ready none, stream := s.endAt .completed }
  | mismatches (n : Nat) (rest : Body) (poll : body.poll = (.ready none, rest))
    (expected : s.expected = some n) (length : n ≠ s.observed) :
    Carries s body {
      item := .ready (some (.error (.contentMismatch n s.observed)))
      stream := s.endAt .errored
      log := [mismatch] }

theorem carries_pollBody (s : Stream) (body : Body) : Carries s body (s.pollBody body) := by
  rw [pollBody]
  split
  · next rest hpoll => exact .waits rest hpoll
  · next data rest hpoll => exact .chunk data rest hpoll
  · next e rest hpoll => exact .fails e rest hpoll
  · next rest hpoll =>
    rw [finish]
    split
    · next n hexpected =>
      split
      · next hlength =>
        exact .completes rest hpoll fun m hm => Option.some.inj (hm.symm.trans hexpected) ▸ hlength
      · next hlength => exact .mismatches n rest hpoll hexpected hlength
    · next hexpected => exact .completes rest hpoll fun m hm => by simp [hexpected] at hm

/-! ## How a stream fares -/

/-- The stage of a stream that has just handed out an item. -/
def Fares (item : Poll (Option (Except Error Bytes))) (stage : Stage) : Prop :=
  match item with
  | .ready none => stage = .completed
  | .ready (some (.error _)) => stage.isDead = true
  | .pending | .ready (some (.ok _)) => stage.isLive = true

theorem Carries.fares {body : Body} (hcarries : Carries s body turn)
    (hstage : s.stage = .transferring) :
    turn.stream.Coherent ∧ Fares turn.item turn.stream.stage := by
  have hlive : s.stage.isLive = true := by rw [hstage]; rfl
  cases hcarries with
  | waits | chunk => exact ⟨hstage, hlive⟩
  | fails | completes | mismatches => exact ⟨rfl, rfl⟩

/-- **How a stream fares**: it is over and says so again, or its item tells its new stage. -/
theorem next_fares (h : s.Coherent) :
    s.next.stream.Coherent ∧
      ((s.source = .spent ∧ s.next = { item := .ready none, stream := s }) ∨
        (s.source ≠ .spent ∧ Fares s.next.item s.next.stream.stage)) := by
  have hasked := asked_next h
  generalize s.next = turn at hasked
  cases hasked with
  | nothing hsource => exact ⟨h, .inl ⟨hsource, rfl⟩⟩
  | aborted hsource => exact ⟨rfl, .inr ⟨hsource, rfl⟩⟩
  | opening o o' hcancelled hsource =>
    have hstage : s.stage = .opening := by simpa only [Coherent, hsource] using h
    refine ⟨hstage, .inr ⟨by simp [hsource], ?_⟩⟩
    simp only [Fares, hstage, Stage.isLive]
  | refused o o' e hcancelled hsource => exact ⟨rfl, .inr ⟨by simp [hsource], rfl⟩⟩
  | body s' body hcancelled hflows =>
    obtain ⟨hcoherent, hfares⟩ := (carries_pollBody s' body).fares (hflows.coherent h).2
    refine ⟨hcoherent, .inr ⟨?_, hfares⟩⟩
    cases hflows with
    | before body hsource => simp [hsource]
    | now o o' opened hsource => simp [hsource]

theorem Coherent.next (h : s.Coherent) : s.next.stream.Coherent := (next_fares h).1

theorem Coherent.pollOpen (h : s.Coherent) : s.pollOpen.2.Coherent := by
  have hopens := s.opens_pollOpen
  generalize s.pollOpen = x at hopens
  cases hopens with
  | before | nothing => exact h
  | aborted | opened | refused => exact rfl
  | waits o o' hstage => exact hstage

/-- **Source and stage agree in every stream that was ever made.** -/
theorem Reached.coherent (h : Reached s) : s.Coherent := by
  induction h with
  | ofOpening | ofBody => exact rfl
  | pollOpen _ ih => exact ih.pollOpen
  | next _ ih => exact ih.next
  | abort _ ih => exact ih.abort

/-- A stream that is over says nothing but that. -/
theorem next_of_over (h : s.Coherent) (hover : s.stage.isLive = false) :
    s.next = { item := .ready none, stream := s } := by
  rw [Stream.next, h.source_eq_spent_iff.2 hover]

/-- A complete stream stays complete. -/
theorem completed_next (h : s.Coherent) (hstage : s.stage = .completed) :
    s.next.stream.stage = .completed := by
  have hover : s.stage.isLive = false := by rw [hstage]; rfl
  rw [next_of_over h hover, hstage]

/-- **The end is told by a complete stream**, unless the stream was dead before. -/
theorem next_end (h : s.Coherent) (hdead : s.stage.isDead = false)
    (hitem : s.next.item = .ready none) : s.next.stream.stage = .completed := by
  obtain ⟨hspent, hnext⟩ | ⟨-, hfares⟩ := (next_fares h).2
  · rw [hnext]
    exact Stage.eq_completed (h.source_eq_spent_iff.1 hspent) hdead
  · simpa only [hitem, Fares] using hfares

/-- A failure ends the stream. -/
theorem next_error (h : s.Coherent) (hitem : s.next.item = .ready (some (.error e))) :
    s.next.stream.stage.isDead = true := by
  obtain ⟨-, hnext⟩ | ⟨-, hfares⟩ := (next_fares h).2
  · simp [hnext] at hitem
  · simpa only [hitem, Fares] using hfares

/-- A stream that waits or hands out a chunk lives. -/
theorem next_live (h : s.Coherent)
    (hitem : s.next.item = .pending ∨ ∃ chunk, s.next.item = .ready (some (.ok chunk))) :
    s.next.stream.stage.isLive = true := by
  obtain ⟨-, hnext⟩ | ⟨-, hfares⟩ := (next_fares h).2
  · simp [hnext] at hitem
  · rcases hitem with hitem | ⟨chunk, hitem⟩ <;> simpa only [hitem, Fares] using hfares

end Stream

end RegistryProxy
