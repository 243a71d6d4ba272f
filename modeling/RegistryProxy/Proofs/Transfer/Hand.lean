import RegistryProxy.Transfer.Upload

/-!
# Proofs/Transfer/Hand — what a writer has put into an upload

A `Hand` is the writer of an upload, with a record of what the upload took from it: the chunks, and
whether it took the end frame.  `Hand.Act` is everything a writer can do in one go.  What is on its
way in the queue is then known: the chunks that the backend has not received, and behind them the
end frame if it was taken (`frames`).
-/

namespace RegistryProxy

namespace Upload

variable {u : Upload} {chunk : Bytes} {frame : Frame}

/-- The frames of chunks and, behind them, the end frame if the writer has ended. -/
def frames (chunks : List Bytes) (ended : Bool) : List Frame :=
  chunks.map .chunk ++ if ended then [.finish] else []

theorem frames_concat_chunk (chunks : List Bytes) (chunk : Bytes) :
    frames (chunks ++ [chunk]) false = frames chunks false ++ [.chunk chunk] := by
  simp [frames]

/-- The end frame is the last one. -/
theorem frames_true (chunks : List Bytes) :
    frames chunks true = frames chunks false ++ [.finish] := by
  simp [frames]

/-- A chunk in front of the queue is the first of the chunks. -/
theorem frames_eq_chunk_cons {chunks : List Bytes} {ended : Bool} {data : Bytes}
    {queue : List Frame} (h : frames chunks ended = .chunk data :: queue) :
    ∃ rest, chunks = data :: rest ∧ queue = frames rest ended := by
  cases chunks with
  | nil => cases ended <;> simp [frames] at h
  | cons first rest =>
    obtain ⟨⟨rfl⟩, rfl⟩ : Frame.chunk first = .chunk data ∧ frames rest ended = queue := by
      simpa [frames] using h
    exact ⟨rest, rfl, rfl⟩

/-- An end frame in front of the queue is all there is. -/
theorem frames_eq_finish_cons {chunks : List Bytes} {ended : Bool} {queue : List Frame}
    (h : frames chunks ended = .finish :: queue) : chunks = [] ∧ ended = true := by
  cases chunks with
  | nil => cases ended <;> simp [frames] at h ⊢
  | cons first rest => simp [frames] at h

/-! ## What sending and receiving do to the queue -/

/-- **What a writer that sends a frame can come by**; `size` is how many bytes it counts. -/
inductive Sent (u : Upload) (frame : Frame) (size : Nat) : Poll (Except Error Unit) → Upload → Prop
  | aborted (cancelled : u.cancelled = true) :
    Sent u frame size (.ready (.error abortedError)) u
  | refused (report : Option Report) (backend : u.backend = .gone report) :
    Sent u frame size (.ready (.error (u.failure report))) { u with reported := true }
  | taken (cancelled : u.cancelled = false) (backend : u.backend = .listening) :
    Sent u frame size (.ready (.ok ()))
      { u with queue := u.queue ++ [frame], written := u.written + size }
  | waits : Sent u frame size .pending u

/-- A frame is sent in one of these ways. -/
theorem sent_send (u : Upload) (frame : Frame) :
    Sent u frame 0 (u.send frame).1 (u.send frame).2 := by
  rw [send]
  split
  · next hcancelled => exact .aborted hcancelled
  · next hcancelled =>
    split
    · next report hbackend => exact .refused report hbackend
    · next hbackend =>
      split
      · exact .taken (by simpa using hcancelled) hbackend
      · exact .waits

theorem sent_write (u : Upload) (chunk : Bytes) :
    Sent u (.chunk chunk) chunk.length (u.write chunk).1 (u.write chunk).2 := by
  have hsent := u.sent_send (.chunk chunk)
  rw [write]
  generalize u.send (.chunk chunk) = x at hsent
  obtain ⟨answer, u'⟩ := x
  cases hsent with
  | aborted hcancelled => exact .aborted hcancelled
  | refused report hbackend => exact .refused report hbackend
  | taken hcancelled hbackend => exact .taken hcancelled hbackend
  | waits => exact .waits

/-- **What a writer that ends can come by.**  It waits for the report if and only if its end frame
was taken. -/
inductive Closes (u : Upload) : Poll Report × Closing × Upload → Prop
  | aborted (cancelled : u.cancelled = true) :
    Closes u (.ready (.error abortedError), .sending, u.leave)
  | refused (report : Option Report) (backend : u.backend = .gone report) :
    Closes u
      (.ready (.error (u.failure report)), .sending, { u with reported := true, writer := false })
  | taken (cancelled : u.cancelled = false) (backend : u.backend = .listening) :
    Closes u (u.outcome, .awaiting, { u with queue := u.queue ++ [.finish], writer := false })
  | waits : Closes u (.pending, .sending, u)

/-- So is the end frame. -/
theorem closes_close (u : Upload) : Closes u (u.close .sending) := by
  have hsent := u.sent_send .finish
  rw [close]
  generalize u.send .finish = x at hsent
  obtain ⟨answer, u'⟩ := x
  cases hsent with
  | aborted hcancelled => exact .aborted hcancelled
  | refused report hbackend => exact .refused report hbackend
  | taken hcancelled hbackend => exact .taken hcancelled hbackend
  | waits => exact .waits

/-- A write brings no end frame. -/
theorem finish_mem_of_write (h : Frame.finish ∈ (u.write chunk).2.queue) : .finish ∈ u.queue := by
  have hsent := u.sent_write chunk
  generalize u.write chunk = x at hsent h
  obtain ⟨answer, u'⟩ := x
  cases hsent with
  | aborted | refused | waits => exact h
  | taken => simpa using h

theorem Sent.cancelled_eq {size : Nat} {answer : Poll (Except Error Unit)} {u' : Upload}
    (h : Sent u frame size answer u') : u'.cancelled = u.cancelled := by cases h <;> rfl

/-- As long as the upload does not fail, the writer has not asked for the report. -/
theorem Sent.reported_eq {size : Nat} {answer : Poll (Except Error Unit)} {u' : Upload}
    (h : Sent u frame size answer u') (hanswer : ∀ e, answer ≠ .ready (.error e)) :
    u'.reported = u.reported := by
  cases h with
  | aborted | refused => exact absurd rfl (hanswer _)
  | taken | waits => rfl

theorem cancelled_write (u : Upload) (chunk : Bytes) :
    (u.write chunk).2.cancelled = u.cancelled := (u.sent_write chunk).cancelled_eq

/-- **What a backend that receives can come by.** -/
inductive Received (u : Upload) : Poll UploadEvent → Upload → Prop
  | nothing : Received u .pending u
  | chunk (data : Bytes) (queue : List Frame) (h : u.queue = .chunk data :: queue) :
    Received u (.ready (.chunk data)) { u with queue, received := u.received + data.length }
  | finished (queue : List Frame) (h : u.queue = .finish :: queue)
    (cancelled : u.cancelled = false) : Received u (.ready .finished) { u with queue }
  | aborted : Received u (.ready .aborted) u

/-- A backend that looks at its queue does one of these things. -/
theorem received_receive (u : Upload) : Received u u.receive.1 u.receive.2 := by
  rw [receive]
  split
  · exact .aborted
  next hcancelled =>
    split
    · next data queue h => exact .chunk data queue h
    · next queue h => exact .finished queue h (by simpa using hcancelled)
    · split
      · exact .nothing
      · exact .aborted

/-- An end frame that was received, or is still on its way, was on its way before. -/
theorem Received.finish_mem {event : Poll UploadEvent} {u' : Upload} (h : Received u event u')
    (hfinish : event = .ready .finished ∨ .finish ∈ u'.queue) : .finish ∈ u.queue := by
  cases h with
  | nothing | aborted =>
    rcases hfinish with ⟨⟨⟩⟩ | hmem
    exact hmem
  | chunk data queue hqueue => simpa [hqueue] using hfinish
  | finished queue hqueue => simp [hqueue]

theorem Received.cancelled_eq {event : Poll UploadEvent} {u' : Upload} (h : Received u event u') :
    u'.cancelled = u.cancelled := by cases h <;> rfl

end Upload

/-- How far a writer has come. -/
inductive Hand.Stage where
  /-- It may write. -/
  | writing
  /-- It is done. -/
  | closing (closing : Upload.Closing)
  /-- It is no longer there. -/
  | gone

/-- The writer of an upload. -/
structure Hand where
  /-- How far it has come. -/
  stage : Hand.Stage := .writing
  /-- The chunks that the upload took. -/
  accepted : List Bytes := []
  /-- Whether the upload took the end frame. -/
  ended : Bool := false

namespace Hand

variable {h h' : Hand} {u u' : Upload} {chunk : Bytes}

/-- What comes next for a writer that wants to be done. -/
def next? (h : Hand) : Option Upload.Closing :=
  match h.stage with
  | .writing => some .sending
  | .closing closing => some closing
  | .gone => none

/-- The writer that is no longer there. -/
def leave (h : Hand) : Hand := { h with stage := .gone }

/-- The writer after it was asked to write a chunk once. -/
def afterWrite (h : Hand) (u : Upload) (chunk : Bytes) : Hand :=
  match (u.write chunk).1 with
  | .ready (.ok ()) => { h with accepted := h.accepted ++ [chunk] }
  | _ => h

/-- The writer after it was asked to be done once. -/
def afterClose (h : Hand) (u : Upload) (closing : Upload.Closing) : Hand where
  stage := if (u.close closing).1.isReady then .gone else .closing (u.close closing).2.1
  accepted := h.accepted
  ended := h.ended || closing == .sending && (u.close closing).2.1 == .awaiting

/-- **What a writer can do in one go.**  A write that the upload does not take at once is asked
again or given up; a writer can leave at any time, and an upload can be given up without it. -/
inductive Act (h : Hand) (u : Upload) : Hand → Upload → Prop
  | write (chunk : Bytes) (stage : h.stage = .writing) :
    Act h u (h.afterWrite u chunk) (u.write chunk).2
  | close (closing : Upload.Closing) (next : h.next? = some closing) :
    Act h u (h.afterClose u closing) (u.close closing).2.2
  | abort (stage : h.stage = .writing) : Act h u h.leave u.abort
  | leave : Act h u h.leave u.leave
  | cancel : Act h u h u.cancel

/-- **What one go of a writer comes down to**: the upload takes a chunk, the end frame or
nothing. -/
inductive Did (h : Hand) (u : Upload) : Hand → Upload → Prop
  | accepts (chunk : Bytes) (next : h.next? = some .sending) (cancelled : u.cancelled = false)
    (backend : u.backend = .listening) :
    Did h u { h with accepted := h.accepted ++ [chunk] }
      { u with queue := u.queue ++ [.chunk chunk], written := u.written + chunk.length }
  | ends (stage : Stage) (next : h.next? = some .sending) (cancelled : u.cancelled = false)
    (backend : u.backend = .listening) (quiet : { h with stage }.next? ≠ some .sending) :
    Did h u { h with stage, ended := true }
      { u with queue := u.queue ++ [.finish], writer := false }
  | passes (stage : Stage) (reported cancelled writer : Bool)
    (reports : reported = u.reported ∨ u.backend ≠ .listening)
    (cancels : u.cancelled = true → cancelled = true)
    (leaves : writer = u.writer ∧ ({ h with stage }.next? = some .sending ↔
        h.next? = some .sending) ∨
      writer = false ∧ { h with stage }.next? = none) :
    Did h u { h with stage } { u with reported, cancelled, writer }

theorem next?_of_writing (hstage : h.stage = .writing) : h.next? = some .sending := by
  rw [next?, hstage]

theorem did_write (hstage : h.stage = .writing) (chunk : Bytes) :
    Did h u (h.afterWrite u chunk) (u.write chunk).2 := by
  have hsent := u.sent_write chunk
  rw [afterWrite]
  generalize u.write chunk = x at hsent
  obtain ⟨answer, u'⟩ := x
  cases hsent with
  | aborted | waits => exact .passes h.stage _ _ _ (.inl rfl) id (.inl ⟨rfl, .rfl⟩)
  | refused report hbackend =>
    exact .passes h.stage true _ _ (.inr (by simp [hbackend])) id (.inl ⟨rfl, .rfl⟩)
  | taken hcancelled hbackend => exact .accepts chunk (next?_of_writing hstage) hcancelled hbackend

theorem did_close {closing : Upload.Closing} (hnext : h.next? = some closing) :
    Did h u (h.afterClose u closing) (u.close closing).2.2 := by
  cases closing with
  | awaiting =>
    have hawaits : h.afterClose u .awaiting = { h with
        stage := if u.outcome.isReady then .gone else .closing .awaiting } :=
      congrArg (Hand.mk _ h.accepted) (Bool.or_false _)
    rw [hawaits]
    refine .passes _ _ _ _ (.inl rfl) id (.inl ⟨rfl, iff_of_false ?_ (by simp [hnext])⟩)
    cases u.outcome <;> simp [next?, Poll.isReady]
  | sending =>
    have hcloses := u.closes_close
    generalize hclose : u.close .sending = x at hcloses
    cases hcloses with
    | aborted =>
      have hgone : h.afterClose u .sending = h.leave := by
        simp [afterClose, hclose, Poll.isReady, leave]
      rw [hgone]
      exact .passes .gone _ _ false (.inl rfl) id (.inr ⟨rfl, rfl⟩)
    | refused report hbackend =>
      have hgone : h.afterClose u .sending = h.leave := by
        simp [afterClose, hclose, Poll.isReady, leave]
      rw [hgone]
      exact .passes .gone true _ false (.inr (by simp [hbackend])) id (.inr ⟨rfl, rfl⟩)
    | waits =>
      have hwaits : h.afterClose u .sending = { h with stage := .closing .sending } := by
        simp [afterClose, hclose, Poll.isReady]
      rw [hwaits]
      exact .passes (.closing .sending) _ _ _ (.inl rfl) id (.inl ⟨rfl, iff_of_true rfl hnext⟩)
    | taken hcancelled hbackend =>
      have hended : h.afterClose u .sending = { h with
          stage := if u.outcome.isReady then .gone else .closing .awaiting, ended := true } := by
        simp [afterClose, hclose]
      rw [hended]
      refine .ends _ hnext hcancelled hbackend ?_
      cases u.outcome <;> simp [next?, Poll.isReady]

/-- **Whatever a writer does is one of these.** -/
theorem Act.did (hact : h.Act u h' u') : Did h u h' u' := by
  cases hact with
  | write chunk hstage => exact did_write hstage chunk
  | close closing hnext => exact did_close hnext
  | abort hstage =>
    exact .passes .gone u.reported true false (.inl rfl) (fun _ => rfl) (.inr ⟨rfl, rfl⟩)
  | leave => exact .passes .gone u.reported u.cancelled false (.inl rfl) id (.inr ⟨rfl, rfl⟩)
  | cancel =>
    exact .passes h.stage u.reported true u.writer (.inl rfl) (fun _ => rfl) (.inl ⟨rfl, .rfl⟩)

/-! ## What an upload has of its writer -/

/-- A writer whose end frame was taken has nothing left to send. -/
def Quiet (h : Hand) : Prop := h.ended = true → h.next? ≠ some .sending

theorem Quiet.ended_eq_false (hquiet : h.Quiet) (hnext : h.next? = some .sending) :
    h.ended = false := by
  cases hended : h.ended with
  | false => rfl
  | true => exact absurd hnext (hquiet hended)

/-- The frames on their way continue what the backend has received. -/
def Sends (h : Hand) (u : Upload) (received : Bytes) : Prop :=
  ∃ chunks, u.queue = Upload.frames chunks h.ended ∧
    received ++ chunks.flatten = h.accepted.flatten

theorem Act.quiet (hact : h.Act u h' u') (hquiet : h.Quiet) : h'.Quiet := by
  cases hact.did with
  | accepts chunk hnext => exact hquiet
  | ends stage hnext _ _ hdone => exact fun _ => hdone
  | passes stage reported cancelled writer _ _ hleaves =>
    intro hended
    rcases hleaves with ⟨-, hnext⟩ | ⟨-, hnext⟩
    · exact mt hnext.1 (hquiet hended)
    · simp [hnext]

/-- The upload goes on to know whether there is a writer that may send. -/
theorem Act.attended (hact : h.Act u h' u')
    (hattended : u.writer = true ↔ h.next? = some .sending) :
    u'.writer = true ↔ h'.next? = some .sending := by
  cases hact.did with
  | accepts => exact hattended
  | ends stage _ _ _ hdone => exact iff_of_false Bool.false_ne_true hdone
  | passes stage reported cancelled writer _ _ hleaves =>
    rcases hleaves with ⟨rfl, hnext⟩ | ⟨rfl, hnext⟩
    · exact hattended.trans hnext.symm
    · simp [hnext]

/-- An upload that was given up stays so. -/
theorem Act.cancelled (hact : h.Act u h' u') (hcancelled : u.cancelled = true) :
    u'.cancelled = true := by
  cases hact.did with
  | accepts | ends => exact hcancelled
  | passes _ _ _ _ _ hcancels => exact hcancels hcancelled

/-- **A writer whose upload comes to nothing**: somebody aborted the upload, or the writer has left
without the end frame. -/
def Abandons (h : Hand) (u : Upload) : Prop :=
  u.cancelled = true ∨ u.writer = false ∧ h.ended = false

/-- Such a writer sends nothing more. -/
theorem Act.abandons (hact : h.Act u h' u') (habandons : h.Abandons u)
    (hattended : u.writer = true ↔ h.next? = some .sending) :
    h'.Abandons u' ∧ u'.queue = u.queue := by
  have hsilent (hnext : h.next? = some .sending) : u.cancelled = true :=
    habandons.elim id fun hleft => absurd (hattended.2 hnext) (by simp [hleft.1])
  cases hact.did with
  | accepts _ hnext hcancelled | ends _ hnext hcancelled =>
    exact absurd (hsilent hnext) (by simp [hcancelled])
  | passes stage reported cancelled writer _ hcancels hleaves =>
    refine ⟨habandons.imp hcancels (And.imp_left fun hwriter => ?_), rfl⟩
    rcases hleaves with ⟨rfl, -⟩ | ⟨rfl, -⟩
    · exact hwriter
    · rfl

/-- The backend of such a writer never waits. -/
theorem Abandons.receive_ne_pending (habandons : h.Abandons u) : u.receive.1 ≠ .pending := by
  rw [Upload.receive]
  split
  · rintro ⟨⟩
  · next hcancelled =>
    have hwriter : u.writer = false := (habandons.resolve_left hcancelled).1
    split
    · rintro ⟨⟩
    · rintro ⟨⟩
    · simp [hwriter]

/-- **What an upload took stays as it is** once it took the end frame. -/
theorem Act.accepted_eq (hact : h.Act u h' u') (hquiet : h.Quiet) (hended : h.ended = true) :
    h'.accepted = h.accepted ∧ h'.ended = true := by
  cases hact.did with
  | accepts chunk hnext | ends stage hnext => exact absurd hnext (hquiet hended)
  | passes => exact ⟨rfl, hended⟩

theorem Act.sends {received : Bytes} (hact : h.Act u h' u') (hquiet : h.Quiet)
    (hsends : h.Sends u received) : h'.Sends u' received := by
  obtain ⟨chunks, hqueue, haccepted⟩ := hsends
  cases hact.did with
  | accepts chunk hnext =>
    have hended := hquiet.ended_eq_false hnext
    refine ⟨chunks ++ [chunk], ?_, by simp [← haccepted]⟩
    rw [hqueue, hended, Upload.frames_concat_chunk]
  | ends stage hnext =>
    have hended := hquiet.ended_eq_false hnext
    refine ⟨chunks, ?_, haccepted⟩
    rw [hqueue, hended, Upload.frames_true]
  | passes => exact ⟨chunks, hqueue, haccepted⟩

theorem Act.backend_eq (hact : h.Act u h' u') : u'.backend = u.backend := by
  cases hact.did <;> rfl

end Hand

end RegistryProxy
