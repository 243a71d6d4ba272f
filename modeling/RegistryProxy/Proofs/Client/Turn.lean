import RegistryProxy.Client.Download
import RegistryProxy.Client.Metadata
import RegistryProxy.Client.Search

/-!
# Proofs/Client/Turn — what one turn of an operation does

An `Operation` is a call, a download or a search, and a turn asks it once.  Beside it a `Line` keeps
its request and what the network makes of it, and hears of the answer when the operation asks for
it.  A turn does to the network and to the breaker what the line tells (`Turned`): at most one
request goes out, and an answer that is heard is counted, but for searches.
-/

namespace RegistryProxy

open Client (World)

/-! ## Operations -/

/-- What a client is asked to do. -/
inductive Operation where
  /-- It fetches a document. -/
  | metadata (call : MetadataCall)
  /-- It fetches a tarball. -/
  | tarball (download : Download)
  /-- It searches. -/
  | search (call : SearchCall)
  /-- It was dropped, or needs no more turns. -/
  | ended

namespace Operation

/-- **One turn**: a call does its next step, a download is asked to open or for its next chunk. -/
def turn (opening : Bool) (w : World) : Operation → Operation × World
  | .metadata c =>
    let (_, c, w) := c.step w
    (.metadata c, w)
  | .tarball d =>
    if opening then
      let (_, d, w) := d.pollOpen w
      (.tarball d, w)
    else
      let (_, d, w) := d.next w
      (.tarball d, w)
  | .search c =>
    match c.poll w with
    | (.pending, c, w) => (.search c, w)
    | (.ready _, _, w) => (.ended, w)
  | .ended => (.ended, w)

/-- Whoever asked for it gives it up. -/
def giveUp : Operation → Operation
  | .metadata c => .metadata { c with cancelled := true }
  | .tarball d => .tarball d.abort
  | .search c => .search { c with cancelled := true }
  | .ended => .ended

/-- The request that a search sends. -/
def searchRequest? (w : World) (c : SearchCall) : Option Request :=
  match c.stage, (w.client.requestHeaders Client.documentType ∅ none).1 with
  | .start, .ok headers =>
    if c.cancelled then none
    else some { url := SearchCall.urlOf w.client.uplink, query := c.query.pairs, headers }
  | _, _ => none

/-- **The request that goes out in a turn**, if one does. -/
def sends (w : World) : Operation → Option Request
  | .metadata c =>
    match c.stage with
    | .asking request => if c.cancelled then none else some request
    | _ => none
  | .tarball d => if d.stream.cancelled then none else d.request
  | .search c => searchRequest? w c
  | .ended => none

/-- **Whether a turn asks for an answer that counts**: those of searches do not. -/
def listens : Operation → Bool
  | .metadata c =>
    match c.stage with
    | .sending _ => !c.cancelled
    | _ => false
  | .tarball d =>
    match d.stream.source with
    | .opening _ => !d.stream.cancelled
    | _ => false
  | .search _ | .ended => false

end Operation

/-! ## Lines -/

/-- A request that was handed to the network, and what the network still makes of it. -/
structure Wire where
  /-- The request. -/
  request : Request
  /-- How often there is no answer yet, and the answer. -/
  exchange : Exchange

/-- The answer to a request. -/
structure Answer where
  /-- The request. -/
  request : Request
  /-- What came back, if anything. -/
  content : Except Failure Response

namespace Answer

/-- Whether headers came back. -/
def cameBack (a : Answer) : Bool := Download.cameBack a.content

end Answer

/-- **An operation with its request**, as far as the network knows. -/
structure Line where
  /-- The operation. -/
  operation : Operation
  /-- Its request, from when it goes out to when its answer is heard. -/
  wire : Option Wire := none

namespace Line

/-- The request that is out once a turn has sent its own. -/
def sent (l : Line) (w : World) : Option Wire :=
  match l.operation.sends w with
  | some request => some { request, exchange := (w.network.send request).1 }
  | none => l.wire

/-- Asks the network once for the answer, if the operation asks for it. -/
def listen (operation : Operation) (wire : Option Wire) : Option Answer × Option Wire :=
  if operation.listens then
    match wire with
    | none => (none, none)
    | some x =>
      match x.exchange.poll with
      | (.ready content, _) => (some { request := x.request, content }, none)
      | (.pending, exchange) => (none, some { x with exchange })
  else (none, wire)

/-- **What is heard in a turn**, and what is left of the request. -/
def hears (l : Line) (w : World) : Option Answer × Option Wire := listen l.operation (l.sent w)

variable {l : Line} {w : World} {operation : Operation} {wire : Option Wire}

theorem sent_of_sends_none (h : l.operation.sends w = none) : l.sent w = l.wire := by
  rw [sent, h]

/-- A request that goes out opens an exchange. -/
theorem sent_of_sends {request : Request} (h : l.operation.sends w = some request) :
    l.sent w = some { request, exchange := (w.network.send request).1 } := by
  rw [sent, h]

/-- Whoever does not ask hears nothing. -/
theorem listen_of_not_listens (h : operation.listens = false) :
    listen operation wire = (none, wire) := by
  rw [listen.eq_def, if_neg (Bool.eq_false_iff.1 h)]

theorem listen_of_none : listen operation none = (none, none) := by
  rw [listen.eq_def]
  exact ite_self _

/-- Whoever asks hears nothing while there is no answer, -/
theorem listen_of_pending {x : Wire} {exchange : Exchange} (h : operation.listens = true)
    (hpoll : x.exchange.poll = (.pending, exchange)) :
    listen operation (some x) = (none, some { x with exchange }) := by
  rw [listen, if_pos h, hpoll]

/-- and hears the answer once it is there. -/
theorem listen_of_ready {x : Wire} {content : Except Failure Response} {exchange : Exchange}
    (h : operation.listens = true) (hpoll : x.exchange.poll = (.ready content, exchange)) :
    listen operation (some x) = (some { request := x.request, content }, none) := by
  rw [listen, if_pos h, hpoll]

/-- All who ask hear the same. -/
theorem listen_congr {operation' : Operation} (h : operation.listens = true)
    (h' : operation'.listens = true) : listen operation wire = listen operation' wire := by
  rw [listen.eq_def, listen.eq_def, if_pos h, if_pos h']

/-- An operation that neither sends nor asks leaves its line alone. -/
theorem hears_of_quiet (hsends : l.operation.sends w = none)
    (hlistens : l.operation.listens = false) : l.hears w = (none, l.wire) := by
  rw [hears, listen_of_not_listens hlistens, sent_of_sends_none hsends]

end Line

/-! ## The world around an operation -/

namespace Client.World

variable {w : World}

/-- The network when a request has gone out, if one does. -/
def networkAfter (w : World) : Option Request → Network
  | some r => (w.network.send r).2
  | none => w.network

/-- The breaker when an answer has been counted, if one is heard. -/
def breakerAfter (w : World) : Option Answer → Breaker
  | some a => (w.client.breaker.record a.cameBack w.clock).1
  | none => w.client.breaker

end Client.World

/-- **What a turn does to the world**: a request may go out, and what is heard is counted. -/
structure Affects (w w' : World) (request : Option Request) (answer : Option Answer) : Prop where
  /-- The request goes to the network. -/
  network_eq : w'.network = w.networkAfter request
  /-- The answer goes to the breaker. -/
  breaker_eq : w'.client.breaker = w.breakerAfter answer
  /-- No time passes. -/
  clock_eq : w'.clock = w.clock

namespace Affects

variable {w : World}

theorem nothing (w : World) : Affects w w none none := ⟨rfl, rfl, rfl⟩

theorem note (w : World) (log : Log) : Affects w (w.note log) none none := ⟨rfl, rfl, rfl⟩

theorem send (w : World) (r : Request) : Affects w (w.send r).2 (some r) none := ⟨rfl, rfl, rfl⟩

theorem record (w : World) (a : Answer) : Affects w (w.record a.cameBack) none (some a) :=
  ⟨rfl, rfl, rfl⟩

/-- What is heard after a request has gone out. -/
theorem trans {w w₁ w' : World} {request : Option Request} {answer : Option Answer}
    (hsent : Affects w w₁ request none) (hheard : Affects w₁ w' none answer) :
    Affects w w' request answer where
  network_eq := hheard.network_eq.trans hsent.network_eq
  breaker_eq := by
    rw [hheard.breaker_eq]
    cases answer with
    | none => exact hsent.breaker_eq
    | some a =>
      rw [World.breakerAfter, World.breakerAfter, hsent.breaker_eq, hsent.clock_eq]
      rfl
  clock_eq := hheard.clock_eq.trans hsent.clock_eq

theorem note_right {w w' : World} {request : Option Request} {answer : Option Answer}
    (h : Affects w w' request answer) (log : Log) : Affects w (w'.note log) request answer :=
  ⟨h.network_eq, h.breaker_eq, h.clock_eq⟩

end Affects

/-! ## Calls -/

namespace MetadataCall

variable {c : MetadataCall} {w : World} {wire : Option Wire}

/-- What a call has of its request. -/
def Linked (c : MetadataCall) (wire : Option Wire) : Prop :=
  match c.stage with
  | .start | .asking _ => wire = none
  | .sending exchange => ∃ request, wire = some { request, exchange }
  | .reading _ _ _ | .over _ => True

/-- Whether a call has its answer, or no use for one. -/
def Settled (c : MetadataCall) : Prop :=
  match c.stage with
  | .reading _ _ _ | .over _ => True
  | .start | .asking _ | .sending _ => False

/-- **What a step of a call does** to its request. -/
structure Stepped (c : MetadataCall) (w : World) (wire : Option Wire) (c' : MetadataCall)
    (w' : World) : Prop where
  /-- The world follows its line. -/
  affects : Affects w w' ((Operation.metadata c).sends w) (Line.hears ⟨.metadata c, wire⟩ w).1
  /-- The call and its line go together. -/
  linked : c'.Linked (Line.hears ⟨.metadata c, wire⟩ w).2
  /-- With an answer it is settled, and it stays so. -/
  settled : (Line.hears ⟨.metadata c, wire⟩ w).1.isSome = true ∨ c.Settled → c'.Settled

/-- What the line tells is what a step of a call has to do. -/
theorem Stepped.of_line {c' : MetadataCall} {w' : World} {request : Option Request}
    {answer : Option Answer} {wire' : Option Wire}
    (hsends : (Operation.metadata c).sends w = request)
    (hhears : Line.hears ⟨.metadata c, wire⟩ w = (answer, wire'))
    (haffects : Affects w w' request answer) (hlinked : c'.Linked wire')
    (hsettled : answer.isSome = true ∨ c.Settled → c'.Settled) : Stepped c w wire c' w' := by
  constructor
  · rwa [hsends, hhears]
  · rwa [hhears]
  · rwa [hhears]

theorem Stepped.of_quiet {c' : MetadataCall} {w' : World}
    (hsends : (Operation.metadata c).sends w = none)
    (hlistens : (Operation.metadata c).listens = false) (haffects : Affects w w' none none)
    (hlinked : c'.Linked wire) (hsettled : c.Settled → c'.Settled) : Stepped c w wire c' w' :=
  .of_line hsends (Line.hears_of_quiet hsends hlistens) haffects hlinked
    fun h => hsettled (h.resolve_left Bool.false_ne_true)

/-- Preparing a call sends nothing. -/
theorem prepare_cases (c : MetadataCall) (w : World) :
    Affects w (c.prepare w).2.2 none none ∧
      ((∃ result, (c.prepare w).2.1.stage = .over result) ∨
        ∃ request, (c.prepare w).2.1.stage = .asking request ∧ w.isAvailable = true) := by
  rw [prepare]
  split
  · exact ⟨.nothing w, .inl ⟨_, rfl⟩⟩
  next havailable =>
  have havailable : w.isAvailable = true := by simpa using havailable
  split
  · exact ⟨.nothing w, .inl ⟨_, rfl⟩⟩
  · split
    · exact ⟨.note w _, .inl ⟨_, rfl⟩⟩
    · exact ⟨.note w _, .inr ⟨_, rfl, havailable⟩⟩

/-- A call begins with its request. -/
theorem step_of_start (hstage : c.stage = .start) : c.step w = c.prepare w := by
  rw [step, hstage]

theorem stepped_start (hstage : c.stage = .start) (h : c.Linked wire) :
    Stepped c w wire (c.step w).2.1 (c.step w).2.2 := by
  obtain ⟨haffects, hstage'⟩ := c.prepare_cases w
  rw [Linked, hstage] at h
  rw [step_of_start hstage]
  refine .of_quiet (by simp [Operation.sends, hstage]) (by simp [Operation.listens, hstage])
    haffects ?_ fun hsettled => ?_
  · obtain ⟨_, hover⟩ | ⟨_, hasking, -⟩ := hstage'
    · rw [Linked, hover]
      trivial
    · rw [Linked, hasking]
      exact h
  · rw [Settled, hstage] at hsettled
    exact hsettled.elim

/-- A call under way that was given up is over. -/
theorem step_of_cancelled (hcancelled : c.cancelled = true) (hstart : c.stage ≠ .start)
    (hover : ∀ result, c.stage ≠ .over result) :
    c.step w = c.goTo (.over (.error (givenUp (urlOf w.client.uplink c.name)))) w := by
  rw [step]
  cases hstage : c.stage with
  | start => exact absurd hstage hstart
  | asking | sending | reading => exact if_pos hcancelled
  | _ result => exact absurd hstage (hover result)

/-- The request of a call that was given up is left alone. -/
theorem stepped_givenUp (hcancelled : c.cancelled = true) (hstart : c.stage ≠ .start)
    (hover : ∀ result, c.stage ≠ .over result) :
    Stepped c w wire (c.step w).2.1 (c.step w).2.2 := by
  rw [step_of_cancelled hcancelled hstart hover]
  refine .of_quiet ?_ ?_ (.nothing w) trivial fun _ => trivial
  · rw [Operation.sends]
    split
    · rw [if_pos hcancelled]
    · rfl
  · rw [Operation.listens]
    split
    · rw [hcancelled]
      rfl
    · rfl

/-- A request that is ready is sent. -/
theorem step_of_asking {request : Request} (hstage : c.stage = .asking request)
    (hcancelled : c.cancelled = false) :
    c.step w = c.goTo (.sending (w.send request).1) (w.send request).2 := by
  rw [step, hstage]
  simp only [hcancelled]
  rfl

theorem stepped_asking {request : Request} (hstage : c.stage = .asking request)
    (hcancelled : c.cancelled = false) : Stepped c w wire (c.step w).2.1 (c.step w).2.2 := by
  have hsends : (Operation.metadata c).sends w = some request := by
    simp [Operation.sends, hstage, hcancelled]
  have hhears : Line.hears ⟨.metadata c, wire⟩ w =
      (none, some { request, exchange := (w.network.send request).1 }) := by
    have hlistens : (Operation.metadata c).listens = false := by simp [Operation.listens, hstage]
    rw [Line.hears, Line.listen_of_not_listens hlistens, Line.sent_of_sends hsends]
  rw [step_of_asking hstage hcancelled]
  refine .of_line hsends hhears (.send w request) ⟨request, rfl⟩ ?_
  rw [Settled, hstage]
  exact fun h => h.elim Bool.false_ne_true.elim False.elim

/-- It is settled when it reads the body or is over. -/
theorem settled_iff : c.Settled ↔
    (∃ etag rest collected, c.stage = .reading etag rest collected) ∨
      ∃ result, c.stage = .over result := by
  rw [Settled]
  cases c.stage <;> simp

theorem Settled.linked (h : c.Settled) (wire : Option Wire) : c.Linked wire := by
  rw [Linked]
  obtain ⟨_, _, _, hstage⟩ | ⟨_, hstage⟩ := settled_iff.1 h
  · rw [hstage]
    trivial
  · rw [hstage]
    trivial

/-- An answer is counted, whatever it says. -/
theorem answered_cases (c : MetadataCall) (url : String) (w : World) (a : Answer) :
    Affects w (c.answered url w a.content).2.2 none (some a) ∧
      (c.answered url w a.content).2.1.Settled := by
  obtain ⟨request, content⟩ := a
  cases content with
  | error f => exact ⟨.record w ⟨request, .error f⟩, trivial⟩
  | ok r =>
    rw [answered]
    split
    · exact ⟨.record w ⟨request, .ok r⟩, trivial⟩
    · exact ⟨.record w ⟨request, .ok r⟩, trivial⟩

theorem step_of_pending {x x' : Exchange} (hstage : c.stage = .sending x)
    (hcancelled : c.cancelled = false) (hpoll : x.poll = (.pending, x')) :
    c.step w = (.wait, { c with stage := .sending x' }, w) := by
  rw [step, hstage]
  simp only [hcancelled, hpoll]
  rfl

theorem step_of_ready {x x' : Exchange} {content : Except Failure Response}
    (hstage : c.stage = .sending x) (hcancelled : c.cancelled = false)
    (hpoll : x.poll = (.ready content, x')) :
    c.step w = c.answered (urlOf w.client.uplink c.name) w content := by
  rw [step, hstage]
  simp only [hcancelled, hpoll]
  rfl

theorem stepped_sending {x : Exchange} (hstage : c.stage = .sending x)
    (hcancelled : c.cancelled = false) (h : c.Linked wire) :
    Stepped c w wire (c.step w).2.1 (c.step w).2.2 := by
  rw [Linked, hstage] at h
  obtain ⟨request, rfl⟩ := h
  have hsends : (Operation.metadata c).sends w = none := by simp [Operation.sends, hstage]
  have hlistens : (Operation.metadata c).listens = true := by
    simp [Operation.listens, hstage, hcancelled]
  have hhears : Line.hears ⟨.metadata c, some { request, exchange := x }⟩ w =
      Line.listen (.metadata c) (some { request, exchange := x }) :=
    congrArg _ (Line.sent_of_sends_none hsends)
  obtain ⟨answer, x', hpoll⟩ : ∃ answer x', x.poll = (answer, x') := ⟨_, _, rfl⟩
  cases answer with
  | ready content =>
    rw [Line.listen_of_ready hlistens hpoll] at hhears
    rw [step_of_ready hstage hcancelled hpoll]
    obtain ⟨haffects, hsettled⟩ := c.answered_cases (urlOf w.client.uplink c.name) w
      { request, content }
    exact .of_line hsends hhears haffects (hsettled.linked none) fun _ => hsettled
  | pending =>
    rw [Line.listen_of_pending hlistens hpoll] at hhears
    rw [step_of_pending hstage hcancelled hpoll]
    refine .of_line hsends hhears (.nothing w) ⟨request, rfl⟩ ?_
    rw [Settled, hstage]
    exact fun h => h.elim Bool.false_ne_true.elim False.elim

/-- A call without a use for an answer only changes itself. -/
theorem Stepped.of_settled (h : c.Settled) {c' : MetadataCall} (hsettled : c'.Settled) :
    Stepped c w wire c' w := by
  obtain ⟨_, _, _, hstage⟩ | ⟨_, hstage⟩ := settled_iff.1 h
  all_goals
    exact .of_quiet (by simp [Operation.sends, hstage]) (by simp [Operation.listens, hstage])
      (.nothing w) (hsettled.linked wire) fun _ => hsettled

theorem step_of_reading {etag : Option String} {rest : Body} {collected : Bytes}
    (hstage : c.stage = .reading etag rest collected) (hcancelled : c.cancelled = false) :
    c.step w = c.read etag rest collected w := by
  rw [step, hstage]
  simp only [hcancelled]
  rfl

theorem stepped_reading {etag : Option String} {rest : Body} {collected : Bytes}
    (hstage : c.stage = .reading etag rest collected) (hcancelled : c.cancelled = false) :
    Stepped c w wire (c.step w).2.1 (c.step w).2.2 := by
  have hread : (c.read etag rest collected w).2.2 = w ∧
      (c.read etag rest collected w).2.1.Settled := by
    rw [read]
    split <;> exact ⟨rfl, trivial⟩
  rw [step_of_reading hstage hcancelled, hread.1]
  exact .of_settled (settled_iff.2 (.inl ⟨_, _, _, hstage⟩)) hread.2

theorem step_of_over {result : Except Error RemoteMetadata} (hstage : c.stage = .over result) :
    c.step w = (.over result, c, w) := by
  rw [step, hstage]

/-- **So does every step of a call.** -/
theorem stepped (h : c.Linked wire) : Stepped c w wire (c.step w).2.1 (c.step w).2.2 := by
  cases hstage : c.stage with
  | start => exact stepped_start hstage h
  | asking request =>
    cases hcancelled : c.cancelled with
    | true => exact stepped_givenUp hcancelled (by rw [hstage]; nofun) (by rw [hstage]; nofun)
    | false => exact stepped_asking hstage hcancelled
  | sending x =>
    cases hcancelled : c.cancelled with
    | true => exact stepped_givenUp hcancelled (by rw [hstage]; nofun) (by rw [hstage]; nofun)
    | false => exact stepped_sending hstage hcancelled h
  | reading etag rest collected =>
    cases hcancelled : c.cancelled with
    | true => exact stepped_givenUp hcancelled (by rw [hstage]; nofun) (by rw [hstage]; nofun)
    | false => exact stepped_reading hstage hcancelled
  | _ result =>
    have hsettled := settled_iff.2 (.inr ⟨result, hstage⟩)
    rw [step_of_over hstage]
    exact .of_settled hsettled hsettled

end MetadataCall

end RegistryProxy
