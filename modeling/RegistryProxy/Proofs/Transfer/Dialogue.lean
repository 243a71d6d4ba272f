import Mathlib.Logic.Relation
import RegistryProxy.Proofs.Transfer.Hand

/-!
# Proofs/Transfer/Dialogue — what a writer is told

A `Dialogue` is an upload with the calls of its writer.  A call is asked until it has a reply, or is
given up; a write gives the writer back, the other calls use it up.  As long as the backend listens
nobody has read its report, and only a call that gives the upload up can cancel it (`Open`).  So
when the backend has left, every call has a reply as soon as it is asked: the first one tells the
report, and behind it a writer hears only that the upload has failed already (`Told`).
-/

namespace RegistryProxy

/-- A call of the writer of an upload. -/
inductive Call where
  /-- It sends a chunk. -/
  | write (chunk : Bytes)
  /-- It ends the upload, and has come so far. -/
  | done (closing : Upload.Closing)
  /-- It has given the upload up and waits for the report. -/
  | abort

/-- What a call comes back with. -/
inductive Reply where
  /-- Of a write. -/
  | wrote (answer : Except Error Unit)
  /-- Of the end, and whether the end frame was taken. -/
  | done (taken : Bool) (answer : Report)
  /-- Of giving up. -/
  | aborted (answer : Report)

namespace Reply

variable {reply : Reply} {report : Option Report} {e : Error}

/-- It is this error. -/
def Fails (e : Error) : Reply → Prop
  | wrote answer => answer = .error e
  | done _ answer => answer = .error e
  | aborted answer => answer = .error e

/-- **It tells the report of a backend that has left.**  An error is handed on.  A number of bytes
is for a writer that has ended or given up; to any other it says that the backend was too early. -/
def Tells (report : Option Report) (reply : Reply) : Prop :=
  match report, reply with
  | none, reply => reply.Fails Upload.backendDropped
  | some (.error e), reply => reply.Fails e
  | some (.ok n), done true answer => answer = .ok n
  | some (.ok n), aborted answer => answer = .ok n
  | some (.ok _), reply => reply.Fails Upload.closedEarly

/-- **A report is told once**: by the first reply, and not again. -/
def OnceTold (report : Option Report) : List Reply → Prop
  | [] => True
  | first :: later => first.Tells report ∧ ∀ reply ∈ later, reply.Fails Upload.alreadyFailed

/-- Once the report is told, what says that the upload has failed may follow. -/
theorem OnceTold.concat {replies : List Reply} (h : OnceTold report replies) (hne : replies ≠ [])
    (hreply : reply.Fails Upload.alreadyFailed) : OnceTold report (replies ++ [reply]) := by
  cases replies with
  | nil => exact absurd rfl hne
  | cons first later =>
    obtain ⟨htells, hlater⟩ := h
    refine ⟨htells, fun other hother => ?_⟩
    rcases List.mem_append.1 hother with hother | hother
    · exact hlater other hother
    · rwa [List.mem_singleton.1 hother]

end Reply

namespace Call

variable {call : Call} {u : Upload} {report : Option Report}

/-- It has not been asked. -/
def IsNew : Call → Prop
  | write _ | abort => True
  | done closing => closing = .sending

/-- The upload when a call is made. -/
def make (u : Upload) : Call → Upload
  | abort => u.abort
  | write _ | done _ => u

/-- **Asks a call once.** -/
def ask (u : Upload) : Call → Poll Reply × Call × Upload
  | write chunk => ((u.write chunk).1.map .wrote, .write chunk, (u.write chunk).2)
  | done closing =>
    ((u.close closing).1.map (.done ((u.close closing).2.1 == .awaiting)),
      .done (u.close closing).2.1, (u.close closing).2.2)
  | abort => (u.outcome.map .aborted, .abort, u)

/-- Whether the writer comes back with the reply. -/
def isWrite : Call → Bool
  | write _ => true
  | done _ | abort => false

/-- What asking leaves as it was. -/
structure Keeps (u u' : Upload) : Prop where
  /-- The backend is where it was. -/
  backend : u'.backend = u.backend
  /-- Nobody gives the upload up. -/
  cancelled : u'.cancelled = u.cancelled
  /-- The report is read when the backend has left. -/
  reported : u'.reported = u.reported ∨ u.backend ≠ .listening

/-- A frame that is sent, or waits, leaves the backend where it was. -/
theorem Keeps.of_sent {frame : Frame} {size : Nat} {answer : Poll (Except Error Unit)}
    {u' : Upload} (h : Upload.Sent u frame size answer u') : Keeps u u' := by
  cases h with
  | aborted | taken | waits => exact ⟨rfl, rfl, .inl rfl⟩
  | refused report hbackend => exact ⟨rfl, rfl, .inr (by simp [hbackend])⟩

/-- **No call moves the backend**, and asking cancels nothing. -/
theorem keeps_ask (u : Upload) (call : Call) : Keeps u (call.ask u).2.2 := by
  cases call with
  | write chunk => exact .of_sent (u.sent_write chunk)
  | abort => exact ⟨rfl, rfl, .inl rfl⟩
  | done closing =>
    cases closing with
    | awaiting => exact ⟨rfl, rfl, .inl rfl⟩
    | sending =>
      have hcloses := u.closes_close
      rw [ask]
      generalize u.close .sending = x at hcloses
      cases hcloses with
      | aborted | taken | waits => exact ⟨rfl, rfl, .inl rfl⟩
      | refused report hbackend => exact ⟨rfl, rfl, .inr (by simp [hbackend])⟩

/-! ## When the backend has left -/

/-- What a call may say, by whether the report was read before. -/
def Hears (reported : Bool) (report : Option Report) (reply : Reply) : Prop :=
  if reported then reply.Fails Upload.alreadyFailed else reply.Tells report

/-- Who waits for the report of a backend that has left has it at once. -/
theorem outcome_of_gone (hbackend : u.backend = .gone report) : ∃ answer,
    u.outcome = .ready answer ∧ Hears u.reported report (.aborted answer) ∧
      Hears u.reported report (.done true answer) := by
  rw [Upload.outcome, hbackend]
  cases u.reported with
  | true => exact ⟨_, rfl, rfl, rfl⟩
  | false =>
    rcases report with _ | ⟨_ | _⟩ <;> exact ⟨_, rfl, rfl, rfl⟩

/-- A frame that comes too late hears why. -/
theorem hears_failure (u : Upload) (report : Option Report) :
    Hears u.reported report (.wrote (.error (u.failure report))) ∧
      Hears u.reported report (.done false (.error (u.failure report))) := by
  rw [Upload.failure.eq_def]
  cases u.reported with
  | true => exact ⟨rfl, rfl⟩
  | false =>
    rcases report with _ | ⟨_ | _⟩ <;> exact ⟨rfl, rfl⟩

theorem send_of_gone (hcancelled : u.cancelled = false) (hbackend : u.backend = .gone report)
    (frame : Frame) :
    u.send frame = (.ready (.error (u.failure report)), { u with reported := true }) := by
  rw [Upload.send, hcancelled, hbackend]
  rfl

/-- **A call to a backend that has left has its reply at once.**  A write has read the report
then. -/
theorem ask_of_gone (hbackend : u.backend = .gone report)
    (hcancelled : u.cancelled = true → call = .abort) : ∃ reply,
    (call.ask u).1 = .ready reply ∧ Hears u.reported report reply ∧
      (call.isWrite = true → (call.ask u).2.2.reported = true) := by
  have hopen (hne : call ≠ .abort) : u.cancelled = false :=
    Bool.eq_false_iff.2 (mt hcancelled hne)
  cases call with
  | write chunk =>
    have hsend := send_of_gone (hopen (by simp)) hbackend (.chunk chunk)
    have hwrite : u.write chunk =
        (.ready (.error (u.failure report)), { u with reported := true }) := by
      rw [Upload.write, hsend]
    rw [ask, hwrite]
    exact ⟨_, rfl, (hears_failure u report).1, fun _ => rfl⟩
  | abort =>
    obtain ⟨answer, hready, hhears, -⟩ := outcome_of_gone hbackend
    rw [ask, hready]
    exact ⟨_, rfl, hhears, by simp [isWrite]⟩
  | done closing =>
    cases closing with
    | awaiting =>
      obtain ⟨answer, hready, -, hhears⟩ := outcome_of_gone hbackend
      rw [ask, Upload.close, hready]
      exact ⟨_, rfl, hhears, by simp [isWrite]⟩
    | sending =>
      rw [ask, Upload.close, send_of_gone (hopen (by simp)) hbackend .finish]
      exact ⟨_, rfl, (hears_failure u report).2, by simp [isWrite]⟩

end Call

/-- What the writer of an upload is doing. -/
inductive Dialogue.Stage where
  /-- It may make a call. -/
  | free
  /-- It waits for a reply. -/
  | waiting (call : Call)
  /-- It is no longer there. -/
  | gone

/-- An upload with the calls of its writer. -/
structure Dialogue where
  /-- The upload. -/
  upload : Upload
  /-- What the writer is doing. -/
  stage : Dialogue.Stage := .free
  /-- What it was told, oldest first. -/
  replies : List Reply := []

namespace Dialogue

variable {s s' t : Dialogue} {u : Upload} {call : Call} {report : Option Report}
  {since : List Reply}

/-- The dialogue to begin with. -/
def ofCapacity (capacity : Nat) : Dialogue := { upload := .ofCapacity capacity }

/-- **The calls that can be asked next**, and the upload that they are asked about: the one that
waits for its reply, or a new one. -/
inductive Asks (s : Dialogue) : Call → Upload → Prop
  | again {call : Call} (waiting : s.stage = .waiting call) : Asks s call s.upload
  | anew {call : Call} (free : s.stage = .free) (isNew : call.IsNew) :
    Asks s call (call.make s.upload)

/-- The dialogue after a call was asked once. -/
def ask (s : Dialogue) (call : Call) (u : Upload) : Dialogue where
  upload := (call.ask u).2.2
  stage := match (call.ask u).1 with
    | .pending => .waiting (call.ask u).2.1
    | .ready _ => if call.isWrite then .free else .gone
  replies := match (call.ask u).1 with
    | .pending => s.replies
    | .ready reply => s.replies ++ [reply]

/-- **The backend leaves**, with a report or without. -/
inductive Leaves (s : Dialogue) : Option Report → Dialogue → Prop
  | settles (report : Report) (listening : s.upload.backend = .listening) :
    Leaves s (some report) { s with upload := s.upload.settle report }
  | drops (listening : s.upload.backend = .listening) :
    Leaves s none { s with upload := s.upload.drop }

/-- **One step of a dialogue** in which nobody but the writer gives the upload up. -/
inductive Step : Dialogue → Dialogue → Prop
  | ask {s : Dialogue} (call : Call) (u : Upload) (asks : s.Asks call u) : Step s (s.ask call u)
  | giveUp {s : Dialogue} (chunk : Bytes) (waiting : s.stage = .waiting (.write chunk)) :
    Step s { s with stage := .free }
  | leave {s : Dialogue} : Step s { s with upload := s.upload.leave, stage := .gone }
  | receive {s : Dialogue} (listening : s.upload.backend = .listening) :
    Step s { s with upload := s.upload.receive.2 }
  | leaves {s s' : Dialogue} {report : Option Report} (leaves : s.Leaves report s') : Step s s'

/-- A run of any number of steps. -/
abbrev Run : Dialogue → Dialogue → Prop := Relation.ReflTransGen Step

/-! ## What a run keeps -/

/-- Only a call that gives the upload up cancels it. -/
def Quiet (s : Dialogue) : Prop :=
  s.upload.cancelled = true → s.stage = .gone ∨ s.stage = .waiting .abort

/-- **What a dialogue keeps**: the report is read when the backend has left, not before. -/
structure Open (s : Dialogue) : Prop where
  /-- Only a call that gives the upload up cancels it. -/
  quiet : s.Quiet
  /-- The report of a backend that listens was not read. -/
  unread : s.upload.backend = .listening → s.upload.reported = false

/-- A call is asked about the upload as it is, and only giving up cancels it. -/
structure Fair (s : Dialogue) (call : Call) (u : Upload) : Prop where
  /-- The backend is where it was. -/
  backend : u.backend = s.upload.backend
  /-- Nobody reads the report by making a call. -/
  reported : u.reported = s.upload.reported
  /-- Only a call that gives the upload up finds it cancelled. -/
  cancelled : u.cancelled = true → call = .abort
  /-- The writer is there. -/
  stage : s.stage ≠ .gone

/-- In a quiet dialogue only a call that gives the upload up finds it cancelled. -/
theorem Asks.fair (h : s.Asks call u) (hquiet : s.Quiet) : s.Fair call u := by
  cases h with
  | again hwaiting =>
    refine ⟨rfl, rfl, fun hcancelled => ?_, by simp [hwaiting]⟩
    simpa [hwaiting] using hquiet hcancelled
  | anew hfree =>
    have hopen : s.upload.cancelled = false := by
      refine Bool.eq_false_iff.2 fun hcancelled => ?_
      simpa [hfree] using hquiet hcancelled
    cases call with
    | abort => exact ⟨rfl, rfl, fun _ => rfl, by simp [hfree]⟩
    | write | done => exact ⟨rfl, rfl, by simp [Call.make, hopen], by simp [hfree]⟩

/-- Asking a call keeps the dialogue quiet: who gave up waits for the report, or has gone. -/
theorem Fair.quiet (h : s.Fair call u) : (s.ask call u).Quiet := by
  intro hcancelled
  obtain rfl := h.cancelled ((Call.keeps_ask u call).cancelled.symm.trans hcancelled)
  rw [ask]
  cases (Call.abort.ask u).1 with
  | pending => exact .inr rfl
  | ready reply => exact .inl rfl

/-- Every step keeps the report unread as long as the backend listens. -/
theorem Step.open (hstep : Step s t) (h : s.Open) : t.Open := by
  cases hstep with
  | ask call u hasks =>
    have hfair := hasks.fair h.quiet
    have hkeeps := Call.keeps_ask u call
    refine ⟨hfair.quiet, fun hlistening => ?_⟩
    have hbackend : u.backend = .listening := hkeeps.backend.symm.trans hlistening
    calc (call.ask u).2.2.reported = u.reported :=
          hkeeps.reported.resolve_right (Classical.not_not.2 hbackend)
      _ = s.upload.reported := hfair.reported
      _ = false := h.unread (hfair.backend ▸ hbackend)
  | giveUp chunk hwaiting =>
    refine ⟨fun hcancelled => ?_, h.unread⟩
    simpa [hwaiting] using h.quiet hcancelled
  | leave => exact ⟨fun _ => .inl rfl, h.unread⟩
  | receive hlistening =>
    have hreceived := s.upload.received_receive
    generalize s.upload.receive = x at hreceived
    obtain ⟨event, u⟩ := x
    cases hreceived with
    | nothing | chunk | finished | aborted => exact ⟨h.quiet, h.unread⟩
  | leaves hleaves =>
    cases hleaves with
    | settles | drops => exact ⟨h.quiet, nofun⟩

theorem open_ofCapacity (capacity : Nat) : (ofCapacity capacity).Open := ⟨nofun, fun _ => rfl⟩

/-- So does every run. -/
theorem Run.open (hrun : Run s t) (h : s.Open) : t.Open := by
  induction hrun with
  | refl => exact h
  | tail _ hstep ih => exact hstep.open ih

/-! ## When the backend has left -/

/-- **What a writer was told** since the backend left. -/
structure Told (report : Option Report) (since : List Reply) (t : Dialogue) : Prop where
  /-- Only a call that gives the upload up cancels it. -/
  quiet : t.Quiet
  /-- The backend has left. -/
  backend : t.upload.backend = .gone report
  /-- The report is told by the first reply, and not again. -/
  told : Reply.OnceTold report since
  /-- Before that reply the report was not read. -/
  unread : since = [] → t.upload.reported = false
  /-- A writer that is still there has read it then. -/
  read : since ≠ [] → t.stage ≠ .gone → t.upload.reported = true

/-- When the backend leaves, nothing of its report is told yet. -/
theorem Leaves.told (hleaves : s.Leaves report t) (h : s.Open) :
    Told report [] t ∧ t.replies = s.replies := by
  cases hleaves with
  | settles report hlistening | drops hlistening =>
    exact ⟨⟨h.quiet, rfl, trivial, fun _ => h.unread hlistening, fun hne => absurd rfl hne⟩, rfl⟩

/-- **A call is asked**: it has its reply, and the reply tells what there is to tell. -/
theorem Told.ask (h : Told report since s) (hasks : s.Asks call u) : ∃ reply,
    (call.ask u).1 = .ready reply ∧ Told report (since ++ [reply]) (s.ask call u) ∧
      (s.ask call u).replies = s.replies ++ [reply] := by
  have hfair := hasks.fair h.quiet
  have hkeeps := Call.keeps_ask u call
  have hgone : u.backend = .gone report := hfair.backend.trans h.backend
  obtain ⟨reply, hready, hhears, hread⟩ := Call.ask_of_gone hgone hfair.cancelled
  refine ⟨reply, hready, ⟨hfair.quiet, hkeeps.backend.trans hgone, ?_, by simp, fun _ hstage => ?_⟩,
    ?_⟩
  · by_cases hsince : since = []
    · rw [hfair.reported, h.unread hsince] at hhears
      rw [hsince]
      exact ⟨hhears, by simp⟩
    · rw [hfair.reported, h.read hsince hfair.stage] at hhears
      exact h.told.concat hsince hhears
  · refine hread ?_
    rw [Dialogue.ask, hready] at hstage
    cases hwrite : call.isWrite with
    | true => rfl
    | false => simp [hwrite] at hstage
  · rw [Dialogue.ask, hready]

/-- A step adds at most one reply, and the report stays told once. -/
theorem Step.told (hstep : Step s t) (h : Told report since s) :
    ∃ since', Told report since' t ∧ ∀ before, s.replies = before ++ since →
      t.replies = before ++ since' := by
  have hdeaf : s.upload.backend ≠ .listening := by simp [h.backend]
  cases hstep with
  | ask call u hasks =>
    obtain ⟨reply, -, htold, hreplies⟩ := h.ask hasks
    refine ⟨since ++ [reply], htold, fun before hbefore => ?_⟩
    rw [hreplies, hbefore, List.append_assoc]
  | giveUp chunk hwaiting =>
    refine ⟨since, ⟨fun hcancelled => ?_, h.backend, h.told, h.unread, fun hne _ => ?_⟩,
      fun _ => id⟩
    · simpa [hwaiting] using h.quiet hcancelled
    · exact h.read hne (by simp [hwaiting])
  | leave =>
    exact ⟨since, ⟨fun _ => .inl rfl, h.backend, h.told, h.unread, fun _ hne => absurd rfl hne⟩,
      fun _ => id⟩
  | receive hlistening => exact absurd hlistening hdeaf
  | leaves hleaves =>
    cases hleaves with
    | settles _ hlistening | drops hlistening => exact absurd hlistening hdeaf

/-- What a run adds to the replies tells the report once. -/
theorem Run.told (hrun : Run s t) (h : Told report [] s) :
    ∃ since, Told report since t ∧ t.replies = s.replies ++ since := by
  induction hrun with
  | refl => exact ⟨[], h, (List.append_nil _).symm⟩
  | tail _ hstep ih =>
    obtain ⟨since, htold, hreplies⟩ := ih
    obtain ⟨since', htold', hgrown⟩ := hstep.told htold
    exact ⟨since', htold', hgrown _ hreplies⟩

/-- **The report reaches the writer once.**  Whatever has happened when the backend leaves, and
whatever the writer waits for or does from then on: the first reply tells the report, every later
one that the upload has failed already, and no call has to be asked twice. -/
theorem report_told_once {capacity : Nat} (hbefore : Run (ofCapacity capacity) s)
    (hleaves : s.Leaves report s') (hlater : Run s' t) :
    (∃ since, t.replies = s.replies ++ since ∧ Reply.OnceTold report since) ∧
      ∀ call u, t.Asks call u → ∃ reply, (call.ask u).1 = .ready reply := by
  obtain ⟨hstart, hreplies⟩ := hleaves.told (hbefore.open (open_ofCapacity capacity))
  obtain ⟨since, htold, hsince⟩ := hlater.told hstart
  refine ⟨⟨since, hreplies ▸ hsince, htold.told⟩, fun call u hasks => ?_⟩
  obtain ⟨reply, hready, -⟩ := htold.ask hasks
  exact ⟨reply, hready⟩

/-- A writer whose second chunk waits for room. -/
def crowded : Dialogue where
  upload := { capacity := 1, queue := [.chunk [1]], written := 1 }
  stage := .waiting (.write [2])
  replies := [.wrote (.ok ())]

/-- A tarball is refused while a chunk waits for room. -/
theorem report_told_once_refused : ∃ s' t, Run (ofCapacity 1) crowded ∧
    crowded.Leaves (some (.error (.conflict "p.tgz"))) s' ∧ Run s' t ∧
    t.replies = [.wrote (.ok ()), .wrote (.error (.conflict "p.tgz")),
      .wrote (.error Upload.alreadyFailed), .aborted (.error Upload.alreadyFailed)] ∧
    ∃ since, t.replies = crowded.replies ++ since ∧
      Reply.OnceTold (some (.error (.conflict "p.tgz"))) since := by
  have hfirst := Relation.ReflTransGen.single
    (Step.ask (s := ofCapacity 1) (.write [1]) _ (.anew rfl trivial))
  have hbefore : Run (ofCapacity 1) crowded :=
    hfirst.tail (.ask (.write [2]) _ (.anew rfl trivial))
  have hleaves : crowded.Leaves (some (.error (.conflict "p.tgz"))) _ := .settles _ rfl
  have hrefused := Relation.ReflTransGen.single (.ask (.write [2]) _ (.again rfl) : Step
    { crowded with upload := crowded.upload.settle (.error (.conflict "p.tgz")) } _)
  have hlater := (hrefused.tail (.ask (.write [3]) _ (.anew rfl trivial))).tail
    (.ask .abort _ (.anew rfl trivial))
  exact ⟨_, _, hbefore, hleaves, hlater, rfl, (report_told_once hbefore hleaves hlater).1⟩

end Dialogue

end RegistryProxy
