import Mathlib.Logic.Relation
import RegistryProxy.Proofs.Transfer.Hand
import RegistryProxy.Proofs.Transfer.Life
import RegistryProxy.Transfer.Pipe

/-!
# Proofs/Transfer/Piping — a pipe between its stream and its backend

`Piping` is a pipe with what its owner and its backend have seen of it.  A `Step` lets the pipe or
the backend do something, gives the stream or the upload up, or drops the pipe.  `Does` says once
what the pipe can do in one go, and `Sound` is what all these steps keep, once the stream was not
dead at first: the end frame is sent for a complete stream only, and a dead stream has given its
upload up.
-/

namespace RegistryProxy

namespace Pipe

/-- The pipe after its stream was asked for the next item. -/
def asked (p : Pipe) (duty : Duty) (upload : Upload) : Pipe where
  stream := p.stream.next.stream
  upload := upload
  duty := duty
  log := p.log ++ p.stream.next.log

/-- **What a pipe can do in one go.** -/
inductive Does (p : Pipe) : Progress Report × Pipe → Prop
  | waits (duty : p.duty = .read) (item : p.stream.next.item = .pending) :
    Does p (.wait, p.asked p.duty p.upload)
  | reads (chunk : Bytes) (duty : p.duty = .read)
    (item : p.stream.next.item = .ready (some (.ok chunk))) :
    Does p (.goOn, p.asked (.write chunk) p.upload)
  | ends (duty : p.duty = .read) (item : p.stream.next.item = .ready none) :
    Does p (.goOn, p.asked (.close .sending) p.upload)
  | fails (e : Error) (duty : p.duty = .read)
    (item : p.stream.next.item = .ready (some (.error e))) :
    Does p (.goOn, p.asked (.abandon e) p.upload.abort)
  | blocked (chunk : Bytes) (duty : p.duty = .write chunk)
    (answer : (p.upload.write chunk).1 = .pending) :
    Does p (.wait, { p with upload := (p.upload.write chunk).2 })
  | writes (chunk : Bytes) (duty : p.duty = .write chunk)
    (answer : (p.upload.write chunk).1 = .ready (.ok ())) :
    Does p (.goOn, { p with upload := (p.upload.write chunk).2, duty := .read })
  | refused (chunk : Bytes) (e : Error) (duty : p.duty = .write chunk)
    (answer : (p.upload.write chunk).1 = .ready (.error e)) :
    Does p (.over (.error e), {
      p with upload := (p.upload.write chunk).2.leave, stream := p.stream.abort })
  | closes (closing : Upload.Closing) (duty : p.duty = .close closing)
    (answer : (p.upload.close closing).1 = .pending) :
    Does p (.wait, {
      p with
      upload := (p.upload.close closing).2.2
      duty := .close (p.upload.close closing).2.1 })
  | closed (closing : Upload.Closing) (report : Report) (duty : p.duty = .close closing)
    (answer : (p.upload.close closing).1 = .ready report) :
    Does p (.over report, {
      p with
      upload := (p.upload.close closing).2.2
      duty := .close (p.upload.close closing).2.1 })
  | lingers (reason : Error) (duty : p.duty = .abandon reason)
    (outcome : p.upload.outcome = .pending) : Does p (.wait, p)
  | abandons (reason : Error) (report : Report) (duty : p.duty = .abandon reason)
    (outcome : p.upload.outcome = .ready report) : Does p (.over (.error reason), p)

theorem does_step (p : Pipe) : Does p p.step := by
  rw [step]
  split
  · next hduty =>
    rw [read]
    split
    · next hitem => exact .waits hduty hitem
    · next hitem => exact .ends hduty hitem
    · next chunk hitem => exact .reads chunk hduty hitem
    · next e hitem => exact .fails e hduty hitem
  · next chunk hduty =>
    rw [write]
    split
    · next upload hwrite =>
      obtain rfl : (p.upload.write chunk).2 = upload := congrArg Prod.snd hwrite
      exact .blocked chunk hduty (congrArg Prod.fst hwrite)
    · next upload hwrite =>
      obtain rfl : (p.upload.write chunk).2 = upload := congrArg Prod.snd hwrite
      exact .writes chunk hduty (congrArg Prod.fst hwrite)
    · next e upload hwrite =>
      obtain rfl : (p.upload.write chunk).2 = upload := congrArg Prod.snd hwrite
      exact .refused chunk e hduty (congrArg Prod.fst hwrite)
  · next closing hduty =>
    split
    · next closing' upload hclose =>
      obtain ⟨rfl, rfl⟩ : (p.upload.close closing).2.1 = closing' ∧
          (p.upload.close closing).2.2 = upload := by simp [hclose]
      exact .closes closing hduty (congrArg Prod.fst hclose)
    · next report closing' upload hclose =>
      obtain ⟨rfl, rfl⟩ : (p.upload.close closing).2.1 = closing' ∧
          (p.upload.close closing).2.2 = upload := by simp [hclose]
      exact .closed closing report hduty (congrArg Prod.fst hclose)
  · next reason hduty =>
    split
    · next houtcome => exact .lingers reason hduty houtcome
    · next report houtcome => exact .abandons reason report hduty houtcome

end Pipe

/-- A pipe, and what its owner and its backend have seen of it. -/
structure Piping where
  /-- The pipe. -/
  pipe : Pipe
  /-- Whether the pipe goes on: it is not over and was not dropped. -/
  running : Bool := true
  /-- What the pipe has answered. -/
  result : Option Report := none
  /-- Whether the backend has seen the end of the upload. -/
  finished : Bool := false

namespace Piping

variable {r r' : Piping} {s : Stream} {u : Upload}

/-- Lets the pipe do one thing. -/
def advance (r : Piping) : Piping where
  pipe := r.pipe.step.2
  running := match r.pipe.step.1 with
    | .over _ => false
    | _ => true
  result := match r.pipe.step.1 with
    | .over report => some report
    | _ => r.result
  finished := r.finished

/-- Replaces the upload. -/
def setUpload (r : Piping) (u : Upload) : Piping := { r with pipe := { r.pipe with upload := u } }

/-- **One step of a run**: of the pipe, of whoever gives the stream or the upload up, of the owner
who drops the pipe, or of the backend. -/
inductive Step : Piping → Piping → Prop
  | advance {r : Piping} (running : r.running = true) : Step r r.advance
  | abort {r : Piping} : Step r { r with pipe := { r.pipe with stream := r.pipe.stream.abort } }
  | cancel {r : Piping} : Step r (r.setUpload r.pipe.upload.cancel)
  | drop {r : Piping} (running : r.running = true) :
    Step r { r.setUpload r.pipe.upload.leave with running := false }
  | receive {r : Piping} (listening : r.pipe.upload.backend = .listening) :
    Step r {
      r.setUpload r.pipe.upload.receive.2 with
      finished := r.finished || r.pipe.upload.receive.1 == .ready .finished }
  | settle {r : Piping} (report : Report) (listening : r.pipe.upload.backend = .listening) :
    Step r (r.setUpload (r.pipe.upload.settle report))
  | leave {r : Piping} (listening : r.pipe.upload.backend = .listening) :
    Step r (r.setUpload r.pipe.upload.drop)

/-- A run of any number of steps. -/
abbrev Run : Piping → Piping → Prop := Relation.ReflTransGen Step

/-- Asking a pipe is a run: what it answers is its result, and if it has to wait it goes on. -/
theorem run_pipe (hrunning : r.running = true) (fuel : Nat) :
    ∃ r', Run r r' ∧ r'.pipe = (Pipe.run fuel r.pipe).2 ∧ r'.finished = r.finished ∧
      (∀ report, (Pipe.run fuel r.pipe).1 = .ready report → r'.result = some report) ∧
      ((Pipe.run fuel r.pipe).1 = .pending → r'.running = true ∧ r'.result = r.result) := by
  induction fuel generalizing r with
  | zero =>
    refine ⟨r, .refl, rfl, rfl, ?_, fun _ => ⟨hrunning, rfl⟩⟩
    intro report hready
    cases hready
  | succ fuel ih =>
    have hstep : Step r r.advance := .advance hrunning
    rw [Pipe.run]
    split
    · next p hgo =>
      rw [Piping.advance, hgo] at hstep
      obtain ⟨r', hrun, hrest⟩ := ih (r := ⟨p, true, r.result, r.finished⟩) rfl
      exact ⟨r', .head hstep hrun, hrest⟩
    · next p hwait =>
      rw [Piping.advance, hwait] at hstep
      refine ⟨_, .single hstep, rfl, rfl, ?_, fun _ => ⟨rfl, rfl⟩⟩
      intro report hready
      cases hready
    · next report p hover =>
      rw [Piping.advance, hover] at hstep
      refine ⟨_, .single hstep, rfl, rfl, ?_, ?_⟩
      · intro report' hready
        cases hready
        rfl
      · intro hpending
        cases hpending

/-- What the stage of the stream says about what the pipe does next. -/
def OnDuty (duty : Pipe.Duty) (stage : Stage) : Prop :=
  match duty with
  | .read | .write _ => stage.isDead = false
  | .close _ => stage = .completed
  | .abandon _ => stage.isDead = true

/-- **What a run keeps**, of a stream that was not dead at first. -/
structure Sound (r : Piping) : Prop where
  /-- Source and stage of the stream agree. -/
  coherent : r.pipe.stream.Coherent
  /-- A pipe that goes on does what the stream asks for. -/
  duty : r.running = true → OnDuty r.pipe.duty r.pipe.stream.stage
  /-- The end frame is sent for a complete stream only. -/
  ended : r.finished = true ∨ .finish ∈ r.pipe.upload.queue → r.pipe.stream.stage = .completed
  /-- Success is told for a complete stream only. -/
  stored : ∀ n, r.result = some (.ok n) → r.pipe.stream.stage = .completed
  /-- A dead stream has given its upload up. -/
  aborted : r.pipe.stream.stage.isDead = true → r.pipe.upload.cancelled = true

theorem sound_start (hcoherent : s.Coherent) (hdead : s.stage.isDead = false)
    (hunended : .finish ∉ u.queue) : Sound { pipe := { stream := s, upload := u } } where
  coherent := hcoherent
  duty _ := hdead
  ended h := by
    rcases h with ⟨⟨⟩⟩ | hmem
    exact absurd hmem hunended
  stored n h := by cases h
  aborted h := by rw [hdead] at h; cases h

namespace Sound

/-- The stream is asked for an item, and the upload perhaps given up. -/
theorem asked (h : r.Sound) {duty : Pipe.Duty} {b : Bool}
    (hduty : OnDuty duty r.pipe.stream.next.stream.stage)
    (hqueue : u.queue = r.pipe.upload.queue)
    (haborted : r.pipe.stream.next.stream.stage.isDead = true → u.cancelled = true) :
    Sound ⟨r.pipe.asked duty u, b, r.result, r.finished⟩ where
  coherent := h.coherent.next
  duty _ := hduty
  ended hended := by
    rw [Pipe.asked, hqueue] at hended
    exact Stream.completed_next h.coherent (h.ended hended)
  stored n hresult := Stream.completed_next h.coherent (h.stored n hresult)
  aborted := haborted

/-- The upload changes, but no end frame comes to it. -/
theorem uploaded (h : r.Sound) {duty : Pipe.Duty} {b : Bool}
    (hduty : b = true → OnDuty duty r.pipe.stream.stage)
    (hqueue : .finish ∈ u.queue → .finish ∈ r.pipe.upload.queue)
    (hcancelled : r.pipe.upload.cancelled = true → u.cancelled = true) :
    Sound ⟨{ r.pipe with upload := u, duty := duty }, b, r.result, r.finished⟩ where
  coherent := h.coherent
  duty := hduty
  ended hended := h.ended (hended.imp_right hqueue)
  stored := h.stored
  aborted hdead := hcancelled (h.aborted hdead)

/-- The upload of a complete stream may do anything. -/
theorem of_completed (h : r.Sound) (hstage : r.pipe.stream.stage = .completed)
    {closing : Upload.Closing} {b : Bool} {result : Option Report} :
    Sound ⟨{ r.pipe with upload := u, duty := .close closing }, b, result, r.finished⟩ where
  coherent := h.coherent
  duty _ := hstage
  ended _ := hstage
  stored _ _ := hstage
  aborted hdead := by
    rw [hstage] at hdead
    cases hdead

/-- The pipe ends with an error. -/
theorem failed (h : r.Sound) {e : Error} :
    Sound ⟨r.pipe, false, some (.error e), r.finished⟩ where
  coherent := h.coherent
  duty hrunning := by cases hrunning
  ended := h.ended
  stored n hresult := by cases hresult
  aborted := h.aborted

theorem abort (h : r.Sound) : Sound { r with pipe := { r.pipe with stream := r.pipe.stream.abort } }
    where
  coherent := h.coherent.abort
  duty := h.duty
  ended := h.ended
  stored := h.stored
  aborted := h.aborted

theorem advance (h : r.Sound) (hrunning : r.running = true) : r.advance.Sound := by
  have hdoes := r.pipe.does_step
  have hduty := h.duty hrunning
  rw [Piping.advance]
  generalize r.pipe.step = x at hdoes
  cases hdoes with
  | waits hread hitem =>
    have hlive := Stream.next_live h.coherent (.inl hitem)
    have hdead := Stage.isDead_eq_false_of_isLive hlive
    exact h.asked (hread ▸ hdead) rfl fun hdead' => by simp [hdead] at hdead'
  | reads chunk hread hitem =>
    have hlive := Stream.next_live h.coherent (.inr ⟨chunk, hitem⟩)
    have hdead := Stage.isDead_eq_false_of_isLive hlive
    exact h.asked hdead rfl fun hdead' => by simp [hdead] at hdead'
  | ends hread hitem =>
    rw [hread] at hduty
    have hcompleted := Stream.next_end h.coherent hduty hitem
    exact h.asked hcompleted rfl fun hdead => by simp [hcompleted, Stage.isDead] at hdead
  | fails e hread hitem => exact h.asked (Stream.next_error h.coherent hitem) rfl fun _ => rfl
  | blocked chunk hwrite hanswer =>
    exact h.uploaded (fun _ => hduty) Upload.finish_mem_of_write
      (Upload.cancelled_write .. ▸ id)
  | writes chunk hwrite hanswer =>
    rw [hwrite] at hduty
    exact h.uploaded (fun _ => hduty) Upload.finish_mem_of_write
      (Upload.cancelled_write .. ▸ id)
  | refused chunk e hwrite hanswer =>
    have hleft : Sound ⟨{ r.pipe with upload := (r.pipe.upload.write chunk).2.leave }, false,
        r.result, r.finished⟩ :=
      h.uploaded (fun hrunning => by cases hrunning) Upload.finish_mem_of_write
        (Upload.cancelled_write r.pipe.upload chunk ▸ id)
    exact hleft.abort.failed
  | closes closing hclose hanswer | closed closing report hclose hanswer =>
    rw [hclose] at hduty
    exact h.of_completed hduty
  | lingers reason habandon houtcome => exact h.uploaded (fun _ => hduty) id id
  | abandons reason report habandon houtcome => exact h.failed

theorem step (h : r.Sound) (hstep : Step r r') : r'.Sound := by
  cases hstep with
  | advance hrunning => exact h.advance hrunning
  | abort => exact h.abort
  | cancel => exact h.uploaded h.duty id fun _ => rfl
  | drop hrunning => exact h.uploaded (fun hrunning => by cases hrunning) id id
  | settle report hlistening | leave hlistening =>
    exact h.uploaded h.duty (fun hmem => by cases hmem) id
  | receive hlistening =>
    have hreceived := r.pipe.upload.received_receive
    exact {
      coherent := h.coherent
      duty := h.duty
      ended := fun hended => by
        rw [Bool.or_eq_true, beq_iff_eq, or_assoc] at hended
        exact h.ended (hended.imp_right hreceived.finish_mem)
      stored := h.stored
      aborted := fun hdead => hreceived.cancelled_eq.trans (h.aborted hdead) }

theorem run (h : r.Sound) (hrun : Run r r') : r'.Sound := by
  induction hrun with
  | refl => exact h
  | tail _ hstep ih => exact ih.step hstep

end Sound

/-! ## What a pipe tells about its stream -/

/-- **Copying tells the truth**: success is told and the end shown for complete streams only, and a
pipe that ends with a dead stream ends with an error, has given its upload up and shown no end. -/
def Faithful (s : Stream) (u : Upload) : Prop :=
  ∀ r, Run { pipe := { stream := s, upload := u } } r →
    (∀ n, r.result = some (.ok n) → r.pipe.stream.stage = .completed) ∧
      (r.finished = true → r.pipe.stream.stage = .completed) ∧
      (∀ report, r.result = some report → r.pipe.stream.stage.isDead = true →
        (∃ e, report = .error e) ∧ r.pipe.upload.cancelled = true ∧ r.finished = false)

theorem Sound.not_completed (hdead : r.pipe.stream.stage.isDead = true) :
    r.pipe.stream.stage ≠ .completed := by
  intro hstage
  rw [hstage] at hdead
  cases hdead

theorem faithful (hcoherent : s.Coherent) (hdead : s.stage.isDead = false)
    (hunended : .finish ∉ u.queue) : Faithful s u := by
  intro r hrun
  have hsound := (sound_start hcoherent hdead hunended).run hrun
  refine ⟨hsound.stored, fun hfinished => hsound.ended (.inl hfinished), ?_⟩
  intro report hresult hdead
  have hnot := Sound.not_completed hdead
  refine ⟨?_, hsound.aborted hdead, ?_⟩
  · cases report with
    | ok n => exact absurd (hsound.stored n hresult) hnot
    | error e => exact ⟨e, rfl⟩
  · cases hfinished : r.finished with
    | false => rfl
    | true => exact absurd (hsound.ended (.inl hfinished)) hnot

/-- **A pipe whose stream dies gives up**: it waits for the backend, and then tells the failure. -/
theorem abandons_of_dead (hcoherent : s.Coherent) (hdead : s.stage.isDead = false)
    (hunended : .finish ∉ u.queue) (hrun : Run { pipe := { stream := s, upload := u } } r)
    (hrunning : r.running = true) (hdied : r.pipe.stream.stage.isDead = true) :
    ∃ e, r.pipe.duty = .abandon e ∧ r.pipe.upload.cancelled = true ∧
      ∀ report, r.pipe.upload.backend = .gone report → r.pipe.step.1 = .over (.error e) := by
  have hsound := (sound_start hcoherent hdead hunended).run hrun
  have hduty := hsound.duty hrunning
  cases hcase : r.pipe.duty with
  | abandon e =>
    refine ⟨e, rfl, hsound.aborted hdied, ?_⟩
    intro report hgone
    rw [Pipe.step, hcase, Upload.outcome]
    simp only [hgone]
    split
    · next hpending =>
      split at hpending
      · cases hpending
      · cases report <;> cases hpending
    · rfl
  | read | write chunk | close closing =>
    simp [hcase, OnDuty, Sound.not_completed hdied, hdied] at hduty

/-- **A dead stream passes for an empty one**: its upload is ended, and stored if the backend
likes. -/
theorem run_of_dead (hcoherent : s.Coherent) (hdead : s.stage.isDead = true) (n : Nat) :
    ∃ r, Run { pipe := { stream := s, upload := .ofCapacity Upload.storeCapacity } } r ∧
      r.finished = true ∧ r.result = some (.ok n) ∧ r.pipe.stream = s := by
  have hnext := Stream.next_of_over hcoherent (Stage.isLive_eq_false_of_isDead hdead)
  have hread : advance { pipe := { stream := s, upload := .ofCapacity Upload.storeCapacity } } =
      { pipe := {
          stream := s, upload := .ofCapacity Upload.storeCapacity, duty := .close .sending } } := by
    rw [advance, Pipe.step, Pipe.read, hnext]
    rfl
  have hclosing : Run { pipe := { stream := s, upload := .ofCapacity Upload.storeCapacity } }
      { pipe := {
          stream := s, upload := .ofCapacity Upload.storeCapacity, duty := .close .sending } } :=
    hread ▸ .single (.advance rfl)
  have hrun := (((hclosing.tail (.advance rfl)).tail (.receive rfl)).tail
    (.settle (.ok n) rfl)).tail (.advance rfl)
  exact ⟨_, hrun, rfl, rfl, rfl⟩

theorem faithful_iff (hcoherent : s.Coherent) :
    (∀ u : Upload, .finish ∉ u.queue → Faithful s u) ↔ s.stage.isDead = false := by
  refine ⟨?_, fun hdead u => faithful hcoherent hdead⟩
  intro h
  cases hdead : s.stage.isDead with
  | false => rfl
  | true =>
    obtain ⟨r, hrun, hfinished, -, hstream⟩ := run_of_dead hcoherent hdead 0
    have hcompleted := (h (.ofCapacity Upload.storeCapacity) List.not_mem_nil r hrun).2.1 hfinished
    rw [hstream] at hcompleted
    rw [hcompleted] at hdead
    cases hdead

end Piping

end RegistryProxy
