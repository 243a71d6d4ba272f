import Mathlib.Logic.Relation
import RegistryProxy.Proofs.Transfer.Hand

/-!
# Proofs/Transfer/Channel — what comes out of an upload

A `Channel` is an upload with its writer and with what its backend has received.  A `Step` lets the
writer or the backend do something once; a write or a receipt that does not come about at once is
asked again or given up.  What the upload took is what the backend has received and, behind it, what
is on its way (`Sound`), so nothing is lost, doubled or turned around, and the end is seen behind
all of it.
-/

namespace RegistryProxy

namespace Upload

/-- What a backend comes by when it receives `n` times. -/
def receives : Nat → Upload → List (Poll UploadEvent)
  | 0, _ => []
  | n + 1, u => u.receive.1 :: receives n u.receive.2

variable {u : Upload}

/-! ## An upload without a writer, and one that was given up -/

theorem receives_of_empty (hcancelled : u.cancelled = false) (hwriter : u.writer = false)
    (hqueue : u.queue = []) (n : Nat) : u.receives n = List.replicate n (.ready .aborted) := by
  have hreceive : u.receive = (.ready .aborted, u) := by simp [receive, hcancelled, hqueue, hwriter]
  induction n with
  | zero => rfl
  | succ n ih => rw [receives, hreceive, List.replicate_succ, ih]

/-- **A writer that has gone away** leaves what is on its way, and then the upload counts as given
up. -/
theorem receives_of_left {chunks : List Bytes} (hcancelled : u.cancelled = false)
    (hwriter : u.writer = false) (hqueue : u.queue = frames chunks false) (n : Nat) :
    u.receives (chunks.length + n) =
      chunks.map (fun data => .ready (.chunk data)) ++ List.replicate n (.ready .aborted) := by
  induction chunks generalizing u with
  | nil =>
    rw [List.length_nil, Nat.zero_add]
    exact receives_of_empty hcancelled hwriter hqueue n
  | cons data rest ih =>
    have hreceive : u.receive = (.ready (.chunk data),
        { u with queue := frames rest false, received := u.received + data.length }) := by
      simp [receive, hcancelled, hqueue, frames]
    have hrest := ih (u := { u with
      queue := frames rest false, received := u.received + data.length }) hcancelled hwriter rfl
    rw [List.length_cons, Nat.add_right_comm, receives, hreceive, hrest]
    rfl

theorem receive_of_cancelled (hcancelled : u.cancelled = true) :
    u.receive = (.ready .aborted, u) := by simp [receive, hcancelled]

theorem write_of_cancelled (hcancelled : u.cancelled = true) (chunk : Bytes) :
    u.write chunk = (.ready (.error abortedError), u) := by simp [write, send, hcancelled]

theorem close_of_cancelled (hcancelled : u.cancelled = true) :
    u.close .sending = (.ready (.error abortedError), .sending, u.leave) := by
  simp [close, send, hcancelled]

end Upload

/-- An upload between its writer and its backend. -/
structure Channel where
  /-- The writer, with what the upload took from it. -/
  hand : Hand := {}
  /-- The upload. -/
  upload : Upload
  /-- The chunks that the backend has received. -/
  taken : List Bytes := []
  /-- Whether the backend has seen the end. -/
  finished : Bool := false

namespace Channel

variable {c c' : Channel}

/-- The channel to begin with. -/
def ofCapacity (capacity : Nat) : Channel := { upload := .ofCapacity capacity }

/-- Lets the backend receive once. -/
def receive (c : Channel) : Channel where
  hand := c.hand
  upload := c.upload.receive.2
  taken := match c.upload.receive.1 with
    | .ready (.chunk data) => c.taken ++ [data]
    | _ => c.taken
  finished := c.finished || c.upload.receive.1 == .ready .finished

/-- **One step of a run**: of the writer, of whoever gives the upload up, or of the backend. -/
inductive Step : Channel → Channel → Prop
  | writer {c : Channel} {h : Hand} {u : Upload} (act : c.hand.Act c.upload h u) :
    Step c { c with hand := h, upload := u }
  | receive {c : Channel} (listening : c.upload.backend = .listening) : Step c c.receive
  | settle {c : Channel} (report : Report) (listening : c.upload.backend = .listening) :
    Step c { c with upload := c.upload.settle report }
  | leave {c : Channel} (listening : c.upload.backend = .listening) :
    Step c { c with upload := c.upload.drop }

/-- A run of any number of steps. -/
abbrev Run : Channel → Channel → Prop := Relation.ReflTransGen Step

/-! ## What a run keeps -/

/-- What the upload took is what the backend has received and, while it listens, what is on its
way; the end frame is there until the end was seen. -/
def Carries (c : Channel) : Prop :=
  ∃ rest, c.hand.accepted = c.taken ++ rest ∧
    (c.upload.backend = .listening →
      c.upload.queue = Upload.frames rest (c.hand.ended && !c.finished))

/-- **What a run keeps.** -/
structure Sound (c : Channel) : Prop where
  /-- A writer that has ended sends nothing more. -/
  quiet : c.hand.Quiet
  /-- The upload knows whether there is a writer that may send. -/
  attended : c.upload.writer = true ↔ c.hand.next? = some .sending
  /-- The bytes that the upload took are counted. -/
  written : c.upload.written = c.hand.accepted.flatten.length
  /-- The bytes that the backend received are counted. -/
  received : c.upload.received = c.taken.flatten.length
  /-- No chunk is lost. -/
  carries : c.Carries
  /-- The end is seen behind everything. -/
  complete : c.finished = true → c.hand.ended = true ∧ c.taken = c.hand.accepted

theorem sound_ofCapacity (capacity : Nat) : Sound (ofCapacity capacity) where
  quiet hended := by cases hended
  attended := ⟨fun _ => rfl, fun _ => rfl⟩
  written := rfl
  received := rfl
  carries := ⟨[], rfl, fun _ => rfl⟩
  complete hfinished := by cases hfinished

namespace Sound

/-- As long as a writer may send, the end was not seen. -/
theorem unfinished (h : c.Sound) (hnext : c.hand.next? = some .sending) :
    c.hand.ended = false ∧ c.finished = false := by
  have hended := h.quiet.ended_eq_false hnext
  refine ⟨hended, ?_⟩
  cases hfinished : c.finished with
  | false => rfl
  | true => rw [(h.complete hfinished).1] at hended; cases hended

theorem writer {hand : Hand} {u : Upload} (h : c.Sound) (hact : c.hand.Act c.upload hand u) :
    Sound { c with hand, upload := u } := by
  have hquiet := hact.quiet h.quiet
  have hattended := hact.attended h.attended
  obtain ⟨rest, haccepted, hqueue⟩ := h.carries
  cases hact.did with
  | accepts chunk hnext =>
    obtain ⟨hended, hfinished⟩ := h.unfinished hnext
    exact {
      quiet := hquiet
      attended := hattended
      written := by simp [h.written]
      received := h.received
      carries := by
        refine ⟨rest ++ [chunk], by simp [haccepted], fun hlistening => ?_⟩
        simp only [hqueue hlistening, hended, Bool.false_and, Upload.frames_concat_chunk]
      complete := by simp [hfinished] }
  | ends stage hnext =>
    obtain ⟨hended, hfinished⟩ := h.unfinished hnext
    exact {
      quiet := hquiet
      attended := hattended
      written := h.written
      received := h.received
      carries := by
        refine ⟨rest, haccepted, fun hlistening => ?_⟩
        simp only [hqueue hlistening, hended, hfinished, Bool.false_and, Bool.not_false,
          Bool.and_self, Upload.frames_true]
      complete := by simp [hfinished] }
  | passes =>
    exact ⟨hquiet, hattended, h.written, h.received, ⟨rest, haccepted, hqueue⟩, h.complete⟩

theorem receive (h : c.Sound) (hlistening : c.upload.backend = .listening) : c.receive.Sound := by
  obtain ⟨rest, haccepted, hqueue⟩ := h.carries
  have hfront := hqueue hlistening
  have hreceived := c.upload.received_receive
  rw [Channel.receive]
  generalize c.upload.receive = x at hreceived
  obtain ⟨event, u⟩ := x
  cases hreceived with
  | nothing | aborted =>
    change Sound { c with finished := c.finished || false }
    rw [Bool.or_false]
    exact h
  | chunk data queue hchunk =>
    obtain ⟨rest, rfl, rfl⟩ := Upload.frames_eq_chunk_cons (hfront.symm.trans hchunk)
    change Sound ⟨c.hand, _, c.taken ++ [data], c.finished || false⟩
    rw [Bool.or_false]
    exact {
      quiet := h.quiet
      attended := h.attended
      written := h.written
      received := by simp [h.received]
      carries := ⟨rest, by simp [haccepted], fun _ => rfl⟩
      complete := fun hfinished => by simpa [haccepted] using (h.complete hfinished).2 }
  | finished queue hfinish =>
    obtain ⟨rfl, hunseen⟩ := Upload.frames_eq_finish_cons (hfront.symm.trans hfinish)
    rw [Bool.and_eq_true] at hunseen
    have hqueue : queue = [] := by simpa [hfinish, hunseen, Upload.frames] using hfront
    change Sound ⟨c.hand, _, c.taken, c.finished || true⟩
    rw [Bool.or_true]
    exact {
      quiet := h.quiet
      attended := h.attended
      written := h.written
      received := h.received
      carries := ⟨[], haccepted, fun _ => by simp [hqueue, Upload.frames]⟩
      complete := fun _ => ⟨hunseen.1, by simp [haccepted]⟩ }

theorem step (h : c.Sound) (hstep : Step c c') : c'.Sound := by
  cases hstep with
  | writer hact => exact h.writer hact
  | receive hlistening => exact h.receive hlistening
  | settle report hlistening | leave hlistening =>
    obtain ⟨rest, haccepted, -⟩ := h.carries
    exact ⟨h.quiet, h.attended, h.written, h.received, ⟨rest, haccepted, nofun⟩, h.complete⟩

theorem run (h : c.Sound) (hrun : Run c c') : c'.Sound := by
  induction hrun with
  | refl => exact h
  | tail _ hstep ih => exact ih.step hstep

/-- **When the backend sees the end**, it has received everything. -/
theorem of_finished (h : c.Sound) (hlistening : c.upload.backend = .listening)
    (hfinished : c.upload.receive.1 = .ready .finished) :
    c.hand.ended = true ∧ c.upload.cancelled = false ∧ c.taken = c.hand.accepted := by
  obtain ⟨rest, haccepted, hqueue⟩ := h.carries
  have hfront := hqueue hlistening
  rw [Upload.receive] at hfinished
  split at hfinished
  · cases hfinished
  · next hcancelled =>
    split at hfinished
    · cases hfinished
    · next queue hfinish =>
      obtain ⟨rfl, hunseen⟩ := Upload.frames_eq_finish_cons (hfront.symm.trans hfinish)
      rw [Bool.and_eq_true] at hunseen
      exact ⟨hunseen.1, by simpa using hcancelled, by simp [haccepted]⟩
    · split at hfinished <;> cases hfinished

/-- **When the writer has gone away without an end**, what is on its way is all that comes. -/
theorem receives (h : c.Sound) (hlistening : c.upload.backend = .listening)
    (hcancelled : c.upload.cancelled = false) (hwriter : c.upload.writer = false)
    (hended : c.hand.ended = false) :
    ∃ rest, c.hand.accepted = c.taken ++ rest ∧ ∀ n, c.upload.receives (rest.length + n) =
      rest.map (fun data => .ready (.chunk data)) ++ List.replicate n (.ready .aborted) := by
  obtain ⟨rest, haccepted, hqueue⟩ := h.carries
  refine ⟨rest, haccepted, Upload.receives_of_left hcancelled hwriter ?_⟩
  simp only [hqueue hlistening, hended, Bool.false_and]

end Sound

/-- **An upload that was given up stays so.** -/
theorem Step.cancelled (hstep : Step c c') (hcancelled : c.upload.cancelled = true) :
    c'.upload.cancelled = true := by
  cases hstep with
  | writer hact => exact hact.cancelled hcancelled
  | receive => exact c.upload.received_receive.cancelled_eq.trans hcancelled
  | settle | leave => exact hcancelled

theorem Run.cancelled (hrun : Run c c') (hcancelled : c.upload.cancelled = true) :
    c'.upload.cancelled = true := by
  induction hrun with
  | refl => exact hcancelled
  | tail _ hstep ih => exact hstep.cancelled ih

/-- **Chunks arrive in order, once each and all of them before the end.**  Whatever the capacity
and whatever the writer, the backend and those who give the upload up do, in whatever order:

* the chunks that the backend has received are the first that the upload took, and both ends count
  their bytes;
* the end comes only if the writer has ended, nobody has given the upload up and every chunk was
  received;
* after a writer that went away without an end come the chunks on their way, and then the upload
  counts as given up for ever;
* of an upload that was given up, neither the backend nor the writer ever hears anything else. -/
theorem chunks_arrive_in_order {capacity : Nat} (hrun : Run (ofCapacity capacity) c) :
    (c.taken <+: c.hand.accepted ∧ c.upload.received = c.taken.flatten.length ∧
        c.upload.written = c.hand.accepted.flatten.length ∧
        c.upload.received ≤ c.upload.written) ∧
      (c.upload.backend = .listening → c.upload.receive.1 = .ready .finished →
        c.hand.ended = true ∧ c.upload.cancelled = false ∧ c.taken = c.hand.accepted ∧
          c.upload.received = c.upload.written) ∧
      (c.upload.backend = .listening → c.upload.cancelled = false → c.upload.writer = false →
        c.hand.ended = false →
        ∃ rest, c.hand.accepted = c.taken ++ rest ∧ ∀ n, c.upload.receives (rest.length + n) =
          rest.map (fun data => .ready (.chunk data)) ++ List.replicate n (.ready .aborted)) ∧
      (c.upload.cancelled = true → ∀ c', Run c c' →
        c'.upload.receive = (.ready .aborted, c'.upload) ∧
          (∀ chunk, c'.upload.write chunk = (.ready (.error Upload.abortedError), c'.upload)) ∧
          c'.upload.close .sending =
            (.ready (.error Upload.abortedError), .sending, c'.upload.leave)) := by
  have hsound := (sound_ofCapacity capacity).run hrun
  obtain ⟨rest, haccepted, -⟩ := hsound.carries
  refine ⟨⟨⟨rest, haccepted.symm⟩, hsound.received, hsound.written, ?_⟩, ?_, hsound.receives, ?_⟩
  · rw [hsound.received, hsound.written, haccepted, List.flatten_append, List.length_append]
    exact Nat.le_add_right _ _
  · intro hlistening hfinished
    obtain ⟨hended, hcancelled, htaken⟩ := hsound.of_finished hlistening hfinished
    exact ⟨hended, hcancelled, htaken, by rw [hsound.received, hsound.written, htaken]⟩
  · intro hcancelled c' hrun'
    have hcancelled' := hrun'.cancelled hcancelled
    exact ⟨Upload.receive_of_cancelled hcancelled', Upload.write_of_cancelled hcancelled',
      Upload.close_of_cancelled hcancelled'⟩

/-- Room for one frame: a write waits, is given up and asked again, and so does the end. -/
theorem chunks_arrive_in_order_narrow :
    ∃ c, Run (ofCapacity 1) c ∧ c.upload.backend = .listening ∧
      c.upload.receive.1 = .ready .finished ∧ c.taken = [[1, 2], [3]] ∧ c.hand.ended = true ∧
      c.upload.cancelled = false ∧ c.taken = c.hand.accepted ∧
      c.upload.received = c.upload.written := by
  have hrun := (((((((Relation.ReflTransGen.single
    (Step.writer (c := ofCapacity 1) (.write [1, 2] rfl))).tail
    (.writer (.write [9] rfl))).tail
    (.receive rfl)).tail
    (.writer (.write [3] rfl))).tail
    (.writer (.close .sending rfl))).tail
    (.receive rfl)).tail
    (.writer (.close .sending rfl)))
  exact ⟨_, hrun, rfl, rfl, rfl, (chunks_arrive_in_order hrun).2.1 rfl rfl⟩

end Channel

end RegistryProxy
