import RegistryProxy.Proofs.Client.Turn
import RegistryProxy.Proofs.Transfer.Life

/-!
# Proofs/Client/Fetch — what asking a download does to its request

A download sends its request when it is first asked, and asks for the answer from that turn on.  Its
stream hides the answer, so what the breaker has to count stands beside it (`Linked`); it is counted
in the turn in which the stream leaves its source behind, unless it was given up (`counted`).
-/

namespace RegistryProxy

open Client (World)

/-! ## How streams move -/

namespace Stream

variable {s : Stream}

/-- Whether the source has yet to open. -/
def isOpening (s : Stream) : Prop := ∃ o, s.source = .opening o

/-- **What asking a stream does**, be it for its length or for a chunk. -/
inductive Moved (s : Stream) : Stream → Prop
  | later {s' : Stream} (source : ¬ s.isOpening) (source' : ¬ s'.isOpening)
    (cancelled : s'.cancelled = s.cancelled) : Moved s s'
  | aborted (cancelled : s.cancelled = true) : Moved s (s.endAt .aborted)
  | waits (o o' : Opening) (cancelled : s.cancelled = false) (source : s.source = .opening o)
    (poll : o.poll = (.pending, o')) : Moved s { s with source := .opening o' }
  | answers {s' : Stream} (o o' : Opening) (answer : Except Error Opened)
    (cancelled : s.cancelled = false) (source : s.source = .opening o)
    (poll : o.poll = (.ready answer, o')) (source' : ¬ s'.isOpening) (stage : s'.stage ≠ .opening)
    (alive : s'.stage ≠ .aborted) (cancelled' : s'.cancelled = s.cancelled) : Moved s s'

variable {s' : Stream}

theorem Moved.cancelled_eq (h : Moved s s') : s'.cancelled = s.cancelled := by
  cases h with
  | later _ _ hcancelled | answers _ _ _ _ _ _ _ _ _ hcancelled => exact hcancelled
  | aborted | waits => rfl

theorem Moved.isOpening (h : Moved s s') (hopening : s'.isOpening) : s.isOpening := by
  cases h with
  | later _ hsource' | answers _ _ _ _ _ _ hsource' => exact absurd hopening hsource'
  | aborted => obtain ⟨o, ho⟩ := hopening; cases ho
  | waits o _ _ hsource => exact ⟨o, hsource⟩

theorem Coherent.stage_eq_opening_iff (h : s.Coherent) : s.stage = .opening ↔ s.isOpening := by
  rw [Coherent] at h
  rw [isOpening]
  split at h
  · next o hsource => simp [h, hsource]
  · next hsource => simp [h, hsource]
  · next hsource =>
    rw [hsource]
    constructor
    · intro hstage
      rw [hstage] at h
      cases h
    · rintro ⟨o, ho⟩
      cases ho

theorem moved_pollOpen (h : s.Coherent) : Moved s s.pollOpen.2 := by
  have hopens := s.opens_pollOpen
  generalize s.pollOpen = x at hopens
  cases hopens with
  | before _ hstage =>
    have hsource : ¬ s.isOpening := mt h.stage_eq_opening_iff.2 hstage
    exact .later hsource hsource rfl
  | aborted _ hcancelled => exact .aborted hcancelled
  | waits o o' _ hcancelled hsource hpoll => exact .waits o o' hcancelled hsource hpoll
  | opened o o' _ _ hcancelled hsource hpoll =>
    exact .answers o o' _ hcancelled hsource hpoll nofun nofun nofun rfl
  | refused o o' _ _ hcancelled hsource hpoll =>
    exact .answers o o' _ hcancelled hsource hpoll nofun nofun nofun rfl
  | nothing _ hsource =>
    exact .later (fun ⟨o, ho⟩ => hsource o ho) (fun ⟨o, ho⟩ => hsource o ho) rfl

/-- What asking its body makes of a stream that flows. -/
theorem carries_moved (body : Body) (hstage : s.stage = .transferring) :
    ¬ (s.pollBody body).stream.isOpening ∧ (s.pollBody body).stream.stage ≠ .opening ∧
      (s.pollBody body).stream.stage ≠ .aborted ∧
      (s.pollBody body).stream.cancelled = s.cancelled := by
  have hcarries := s.carries_pollBody body
  generalize s.pollBody body = turn at hcarries
  cases hcarries with
  | waits | chunk => exact ⟨nofun, by simp [hstage], by simp [hstage], rfl⟩
  | fails | completes | mismatches => exact ⟨nofun, nofun, nofun, rfl⟩

theorem moved_next (h : s.Coherent) : Moved s s.next.stream := by
  have hasked := asked_next h
  generalize s.next = turn at hasked
  cases hasked with
  | nothing hsource =>
    have hsource : ¬ s.isOpening := by simp [isOpening, hsource]
    exact .later hsource hsource rfl
  | aborted _ hcancelled => exact .aborted hcancelled
  | opening o o' hcancelled hsource hpoll => exact .waits o o' hcancelled hsource hpoll
  | refused o o' e hcancelled hsource hpoll =>
    exact .answers o o' _ hcancelled hsource hpoll nofun nofun nofun rfl
  | body s' body hcancelled hflows =>
    obtain ⟨hmoved, hstage, halive, hcancelled'⟩ :=
      carries_moved body (hflows.coherent h).2
    cases hflows with
    | before _ hsource =>
      exact .later (by simp [isOpening, hsource]) hmoved hcancelled'
    | now o o' opened hsource hpoll =>
      exact .answers o o' _ hcancelled hsource hpoll hmoved hstage halive hcancelled'

end Stream

/-! ## Downloads -/

namespace Download

variable {d : Download} {w : World} {wire : Option Wire}

/-- **What a download has of its request.** -/
inductive Linked (d : Download) : Option Wire → Prop
  | ready {request : Request} (ready : d.request = some request) (outcome : d.outcome = none)
    (source : d.stream.cancelled = false → d.stream.source = .opening notSent) : Linked d none
  | underWay (x : Wire) (timeout : Duration) (request : d.request = none)
    (outcome : d.outcome = some (cameBack x.exchange.answer))
    (source : d.stream.source = .opening {
      waits := x.exchange.waits, answer := openedWith d.url timeout x.exchange.answer }) :
    Linked d (some x)
  | settled {wire : Option Wire} (request : d.request = none) (outcome : d.outcome = none)
    (quiet : d.stream.isOpening → wire = none) : Linked d wire

/-- Whether a download has its answer, or no use for one. -/
def Settled (d : Download) (wire : Option Wire) : Prop :=
  d.request = none ∧ d.outcome = none ∧ (d.stream.isOpening → wire = none)

/-- **What a turn of a download does** to its request. -/
structure Asked (d : Download) (w : World) (wire : Option Wire) (d' : Download) (w' : World) :
    Prop where
  /-- The world follows its line. -/
  affects : Affects w w' ((Operation.tarball d).sends w) (Line.hears ⟨.tarball d, wire⟩ w).1
  /-- The download and its line go together. -/
  linked : d'.Linked (Line.hears ⟨.tarball d, wire⟩ w).2
  /-- Its stream is in order. -/
  coherent : d'.stream.Coherent
  /-- With an answer it is settled, and it stays so. -/
  settled : (Line.hears ⟨.tarball d, wire⟩ w).1.isSome = true ∨ d.Settled wire →
    d'.Settled (Line.hears ⟨.tarball d, wire⟩ w).2

/-- What the line tells is what a turn of a download has to do. -/
theorem Asked.of_line {d' : Download} {w' : World} {request : Option Request}
    {answer : Option Answer} {wire' : Option Wire}
    (hsends : (Operation.tarball d).sends w = request)
    (hhears : Line.hears ⟨.tarball d, wire⟩ w = (answer, wire'))
    (haffects : Affects w w' request answer) (hlinked : d'.Linked wire')
    (hcoherent : d'.stream.Coherent)
    (hsettled : answer.isSome = true ∨ d.Settled wire → d'.Settled wire') :
    Asked d w wire d' w' := by
  constructor
  · rwa [hsends, hhears]
  · rwa [hhears]
  · exact hcoherent
  · rwa [hhears]

theorem listens_iff : (Operation.tarball d).listens = true ↔
    d.stream.isOpening ∧ d.stream.cancelled = false := by
  rw [Operation.listens, Stream.isOpening]
  cases d.stream.source <;> simp

theorem sends_eq_none (h : d.request = none) : (Operation.tarball d).sends w = none := by
  rw [Operation.sends, h, ite_self]

/-- A settled download neither sends nor hears anything more. -/
theorem Settled.hears_eq (h : d.Settled wire) :
    Line.hears ⟨.tarball d, wire⟩ w = (none, wire) := by
  rw [Line.hears, Line.sent_of_sends_none (sends_eq_none h.1)]
  cases hlistens : (Operation.tarball d).listens with
  | true => rw [h.2.2 (listens_iff.1 hlistens).1, Line.listen_of_none]
  | false => exact Line.listen_of_not_listens hlistens

/-- An outcome is counted once the source has opened or failed. -/
theorem count_eq {success : Bool} (houtcome : d.outcome = some success)
    (hstage : d.stream.stage ≠ .opening) (halive : d.stream.stage ≠ .aborted) :
    d.count w = ({ d with outcome := none }, w.record success) := by
  rw [count, houtcome]
  cases hs : d.stream.stage <;> first | rfl | exact absurd hs hstage | exact absurd hs halive

theorem count_opening (hstage : d.stream.stage = .opening) : d.count w = (d, w) := by
  rw [count, hstage]

theorem count_none (houtcome : d.outcome = none) : d.count w = (d, w) := by
  rw [count, houtcome]
  cases d.stream.stage <;> rfl

theorem count_aborted (hstage : d.stream.stage = .aborted) {success : Bool}
    (houtcome : d.outcome = some success) : d.count w = ({ d with outcome := none }, w) := by
  rw [count, hstage, houtcome]

/-- A stream that waits with its request under way. -/
theorem poll_pending {x : Exchange} {o' : Opening} {answer : Except Error Opened}
    (h : Opening.poll { waits := x.waits, answer } = (.pending, o')) :
    ∃ x', x.poll = (.pending, x') ∧ x'.answer = x.answer ∧ o' = { waits := x'.waits, answer } := by
  obtain ⟨waits, content⟩ := x
  match waits with
  | none =>
    cases h
    exact ⟨_, rfl, rfl, rfl⟩
  | some 0 => cases h
  | some (n + 1) =>
    cases h
    exact ⟨_, rfl, rfl, rfl⟩

theorem poll_ready {x : Exchange} {o' : Opening} {answer answer' : Except Error Opened}
    (h : Opening.poll { waits := x.waits, answer } = (.ready answer', o')) :
    ∃ x', x.poll = (.ready x.answer, x') := by
  obtain ⟨waits, content⟩ := x
  match waits with
  | none => cases h
  | some 0 => exact ⟨_, rfl⟩
  | some (n + 1) => cases h

/-- **What becomes of a request that is under way** when its download is asked: while there is no
answer it waits, an answer is counted, and who gave it up does not care. -/
theorem counted {s' : Stream} {x : Wire} (hlinked : d.Linked (some x))
    (houtcome : d.outcome ≠ none) (hmoved : Stream.Moved d.stream s') (hcoherent : s'.Coherent) :
    Affects w ({ d with stream := s' }.count w).2 none (Line.listen (.tarball d) (some x)).1 ∧
      ({ d with stream := s' }.count w).1.Linked (Line.listen (.tarball d) (some x)).2 ∧
      ({ d with stream := s' }.count w).1.stream = s' ∧
      ((Line.listen (.tarball d) (some x)).1.isSome = true →
        ({ d with stream := s' }.count w).1.Settled (Line.listen (.tarball d) (some x)).2) := by
  cases hlinked with
  | settled _ hnone _ => exact absurd hnone houtcome
  | underWay _ timeout hrequest houtcome hsource =>
  cases hmoved with
  | later hlater => exact absurd ⟨_, hsource⟩ hlater
  | aborted hcancelled =>
    have hlistens : (Operation.tarball d).listens = false := by
      refine Bool.eq_false_iff.2 fun h => ?_
      cases (listens_iff.1 h).2.symm.trans hcancelled
    have hcount := count_aborted (d := { d with stream := d.stream.endAt .aborted }) (w := w) rfl
      houtcome
    rw [Line.listen_of_not_listens hlistens, hcount]
    exact ⟨.nothing w, .settled hrequest rfl nofun, rfl, nofun⟩
  | waits o o' hcancelled ho hpoll =>
    have hlistens := listens_iff.2 ⟨⟨o, ho⟩, hcancelled⟩
    rw [hsource] at ho
    cases ho
    obtain ⟨x', hx', hanswer, rfl⟩ := poll_pending hpoll
    have hcount := count_opening (w := w) (d := { d with stream := { d.stream with
      source := .opening { waits := x'.waits, answer := _ } } }) hcoherent
    rw [Line.listen_of_pending hlistens hx', hcount]
    rw [← hanswer] at houtcome
    refine ⟨.nothing w, .underWay _ timeout hrequest houtcome ?_, rfl, nofun⟩
    rw [hanswer]
  | answers o o' answer hcancelled ho hpoll hsource' hstage halive hcancelled' =>
    have hlistens := listens_iff.2 ⟨⟨o, ho⟩, hcancelled⟩
    rw [hsource] at ho
    cases ho
    obtain ⟨x', hx'⟩ := poll_ready hpoll
    have hcount := count_eq (d := { d with stream := s' }) (w := w) houtcome hstage halive
    rw [Line.listen_of_ready hlistens hx', hcount]
    exact ⟨.record w { request := x.request, content := x.exchange.answer },
      .settled hrequest rfl fun _ => rfl, rfl, fun _ => ⟨hrequest, rfl, fun _ => rfl⟩⟩

/-- A download without a request under way only changes its stream. -/
theorem counted_none {s' : Stream} (houtcome : d.outcome = none) :
    { d with stream := s' }.count w = ({ d with stream := s' }, w) :=
  count_none (d := { d with stream := s' }) houtcome

theorem connect_eq_of_none (h : d.request = none) : d.connect w = (d, w) := by
  rw [connect, h]

theorem connect_eq_of_cancelled (h : d.stream.cancelled = true) : d.connect w = (d, w) := by
  rw [connect, h]
  cases d.request <;> rfl

/-- The download when its request has gone out. -/
def connected (d : Download) (w : World) (x : Exchange) : Download :=
  { d with
    stream := { d.stream with
      source := .opening {
        waits := x.waits, answer := openedWith d.url w.client.uplink.timeout x.answer } }
    request := none
    outcome := some (cameBack x.answer) }

theorem connect_eq {request : Request} (hrequest : d.request = some request)
    (hcancelled : d.stream.cancelled = false) :
    d.connect w = (d.connected w (w.network.send request).1, (w.send request).2) := by
  rw [connect, hrequest, hcancelled]
  rfl

theorem connect_coherent (h : d.Linked wire) (hcoherent : d.stream.Coherent) :
    (d.connect w).1.stream.Coherent := by
  cases h with
  | @ready request hrequest houtcome hfresh =>
    cases hcancelled : d.stream.cancelled with
    | true => rwa [connect_eq_of_cancelled hcancelled]
    | false =>
      rw [connect_eq hrequest hcancelled]
      exact hcoherent.stage_eq_opening_iff.2 ⟨_, hfresh hcancelled⟩
  | underWay _ _ hrequest => rwa [connect_eq_of_none hrequest]
  | settled hrequest => rwa [connect_eq_of_none hrequest]

/-- A download that was given up does not send its request. -/
theorem asked_givenUp {request : Request} {s' : Stream} (hrequest : d.request = some request)
    (houtcome : d.outcome = none) (hcancelled : d.stream.cancelled = true)
    (hmoved : Stream.Moved d.stream s') (hcoherent : s'.Coherent) :
    Asked d w none { d with stream := s' } w := by
  have hsends : (Operation.tarball d).sends w = none := if_pos hcancelled
  have hhears : Line.hears ⟨.tarball d, none⟩ w = (none, none) := by
    rw [Line.hears, Line.sent_of_sends_none hsends, Line.listen_of_none]
  refine .of_line hsends hhears (.nothing w) (.ready hrequest houtcome fun hlive => ?_) hcoherent
    fun hsettled => ?_
  · cases hcancelled.symm.trans (hmoved.cancelled_eq.symm.trans hlive)
  · obtain ⟨hnone, -⟩ := hsettled.resolve_left Bool.false_ne_true
    cases hrequest.symm.trans hnone

/-- Any other sends it, and asks for the answer in the same turn. -/
theorem asked_sends {request : Request} {s' : Stream} (hrequest : d.request = some request)
    (hcancelled : d.stream.cancelled = false) (hsource : d.stream.source = .opening notSent)
    (hmoved : Stream.Moved (d.connected w (w.network.send request).1).stream s')
    (hcoherent : s'.Coherent) :
    Asked d w none
      ({ d.connected w (w.network.send request).1 with stream := s' }.count (w.send request).2).1
      ({ d.connected w (w.network.send request).1 with stream := s' }.count
        (w.send request).2).2 := by
  have hsends : (Operation.tarball d).sends w = some request := by
    rw [Operation.sends, hcancelled]
    exact hrequest
  have hlinked : (d.connected w (w.network.send request).1).Linked
      (some { request, exchange := (w.network.send request).1 }) :=
    .underWay _ w.client.uplink.timeout rfl rfl rfl
  obtain ⟨haffects, hlinked', hstream, hsettled⟩ :=
    counted (w := (w.send request).2) hlinked (Option.some_ne_none _) hmoved hcoherent
  have hhears : Line.hears ⟨.tarball d, none⟩ w =
      Line.listen (.tarball (d.connected w (w.network.send request).1))
        (some { request, exchange := (w.network.send request).1 }) := by
    rw [Line.hears, Line.sent_of_sends hsends]
    exact Line.listen_congr (listens_iff.2 ⟨⟨_, hsource⟩, hcancelled⟩)
      (listens_iff.2 ⟨⟨_, rfl⟩, hcancelled⟩)
  refine .of_line hsends hhears ((Affects.send w request).trans haffects) hlinked'
    (by rwa [hstream]) fun h => hsettled (h.resolve_right ?_)
  rintro ⟨hnone, -⟩
  cases hrequest.symm.trans hnone

/-- A request that is under way is not sent again. -/
theorem asked_underWay {x : Wire} {s' : Stream} (hlinked : d.Linked (some x))
    (hrequest : d.request = none) (houtcome : d.outcome ≠ none)
    (hmoved : Stream.Moved d.stream s') (hcoherent : s'.Coherent) :
    Asked d w (some x) ({ d with stream := s' }.count w).1 ({ d with stream := s' }.count w).2 := by
  have hsends := sends_eq_none (w := w) hrequest
  have hhears : Line.hears ⟨.tarball d, some x⟩ w = Line.listen (.tarball d) (some x) :=
    congrArg _ (Line.sent_of_sends_none hsends)
  obtain ⟨haffects, hlinked', hstream, hsettled⟩ :=
    counted (w := w) hlinked houtcome hmoved hcoherent
  exact .of_line hsends hhears haffects hlinked' (by rwa [hstream])
    fun h => hsettled (h.resolve_right fun h => houtcome h.2.1)

/-- A settled download only changes its stream. -/
theorem asked_settled {s' : Stream} (h : d.Settled wire) (hmoved : Stream.Moved d.stream s')
    (hcoherent : s'.Coherent) : Asked d w wire { d with stream := s' } w := by
  obtain ⟨hrequest, houtcome, hquiet⟩ := id h
  have hquiet' : s'.isOpening → wire = none := fun h => hquiet (hmoved.isOpening h)
  exact .of_line (sends_eq_none hrequest) h.hears_eq (.nothing w)
    (.settled hrequest houtcome hquiet') hcoherent fun _ => ⟨hrequest, houtcome, hquiet'⟩

/-- **What asking a download does**: its request goes out, if it has not, and its stream moves. -/
theorem asked (h : d.Linked wire) {s' : Stream} (hmoved : Stream.Moved (d.connect w).1.stream s')
    (hcoherent : s'.Coherent) :
    Asked d w wire ({ (d.connect w).1 with stream := s' }.count (d.connect w).2).1
      ({ (d.connect w).1 with stream := s' }.count (d.connect w).2).2 := by
  cases h with
  | @ready request hrequest houtcome hfresh =>
    cases hcancelled : d.stream.cancelled with
    | true =>
      rw [connect_eq_of_cancelled hcancelled] at hmoved ⊢
      rw [counted_none houtcome]
      exact asked_givenUp hrequest houtcome hcancelled hmoved hcoherent
    | false =>
      rw [connect_eq hrequest hcancelled] at hmoved ⊢
      exact asked_sends hrequest hcancelled (hfresh hcancelled) hmoved hcoherent
  | underWay x timeout hrequest houtcome hsource =>
    rw [connect_eq_of_none hrequest] at hmoved ⊢
    exact asked_underWay (.underWay x timeout hrequest houtcome hsource) hrequest
      (houtcome ▸ Option.some_ne_none _) hmoved hcoherent
  | settled hrequest houtcome hquiet =>
    rw [connect_eq_of_none hrequest] at hmoved ⊢
    rw [counted_none houtcome]
    exact asked_settled ⟨hrequest, houtcome, hquiet⟩ hmoved hcoherent

theorem asked_pollOpen (h : d.Linked wire) (hcoherent : d.stream.Coherent) :
    Asked d w wire (d.pollOpen w).2.1 (d.pollOpen w).2.2 := by
  have hconnected := connect_coherent (w := w) h hcoherent
  exact asked h (Stream.moved_pollOpen hconnected) hconnected.pollOpen

theorem asked_next (h : d.Linked wire) (hcoherent : d.stream.Coherent) :
    Asked d w wire (d.next w).2.1 (d.next w).2.2 := by
  have hconnected := connect_coherent (w := w) h hcoherent
  have hasked := asked h (Stream.moved_next hconnected) hconnected.next
  exact ⟨hasked.affects.note_right _, hasked.linked, hasked.coherent, hasked.settled⟩

end Download

end RegistryProxy
