import RegistryProxy.Transfer.Body

/-!
# Transfer/Upload — a tarball on its way out

An `Upload` joins a writer with a backend by a queue of bounded length.  The writer sends chunks and
an end frame, or goes away; the backend receives them and leaves with a report, which the writer
reads once.  Either side can abort, and an aborted upload never finishes.  Every operation is asked
once; a writer that finds the queue full, or a backend that finds it empty, has to ask again.
-/

namespace RegistryProxy

/-- What travels from the writer to the backend. -/
inductive Frame where
  /-- A piece of the tarball. -/
  | chunk (data : Bytes)
  /-- There is no more, and the tarball may be stored. -/
  | finish
  deriving DecidableEq

/-- What the backend sees. -/
inductive UploadEvent where
  /-- A piece of the tarball. -/
  | chunk (data : Bytes)
  /-- The tarball is complete. -/
  | finished
  /-- The tarball is not to be stored. -/
  | aborted
  deriving DecidableEq

/-- What the backend says when it leaves: the bytes stored, or why it failed. -/
abbrev Report := Except Error Nat

/-- The backend as the writer sees it. -/
inductive Backend where
  /-- It still receives. -/
  | listening
  /-- It has left, with a report or without. -/
  | gone (report : Option Report)

/-- A tarball on its way out. -/
structure Upload where
  /-- How many frames may be on their way. -/
  capacity : Nat
  /-- The frames on their way, oldest first. -/
  queue : List Frame := []
  /-- Whether somebody gave it up. -/
  cancelled : Bool := false
  /-- Whether there is still a writer. -/
  writer : Bool := true
  /-- The backend. -/
  backend : Backend := .listening
  /-- Whether the writer has read the report. -/
  reported : Bool := false
  /-- How many bytes the writer got into the queue. -/
  written : Nat := 0
  /-- How many bytes the backend got out of it. -/
  received : Nat := 0

namespace Upload

/-- How many chunks an upload to a store holds on their way. -/
def storeCapacity : Nat := 16

/-- An upload with room for `capacity` frames, at least one. -/
def ofCapacity (capacity : Nat) : Upload := { capacity := max capacity 1 }

/-- The error of an upload that was given up. -/
def abortedError : Error := .aborted "upload was aborted"

/-- The error when the backend stored the tarball before it was complete. -/
def closedEarly : Error := .internal "storage backend closed the upload early" .unknown

/-- The error when the backend left without a report. -/
def backendDropped : Error := .internal "storage backend dropped the upload" .unknown

/-- The error when the report has been read before. -/
def alreadyFailed : Error := .internal "upload already failed" .unknown

/-! ## The writer -/

/-- Gives the upload up. -/
def cancel (u : Upload) : Upload := { u with cancelled := true }

/-- The writer goes away. -/
def leave (u : Upload) : Upload := { u with writer := false }

/-- Why a backend that left takes no more: its report, read for the first and last time. -/
def failure (report : Option Report) (u : Upload) : Error :=
  if u.reported then alreadyFailed
  else
    match report with
    | some (.error e) => e
    | some (.ok _) => closedEarly
    | none => backendDropped

/-- Sends a frame, if there is room. -/
def send (u : Upload) (frame : Frame) : Poll (Except Error Unit) × Upload :=
  if u.cancelled then (.ready (.error abortedError), u)
  else
    match u.backend with
    | .gone report => (.ready (.error (u.failure report)), { u with reported := true })
    | .listening =>
      if u.queue.length < u.capacity then (.ready (.ok ()), { u with queue := u.queue ++ [frame] })
      else (.pending, u)

/-- **Sends a chunk**, if there is room. -/
def write (u : Upload) (chunk : Bytes) : Poll (Except Error Unit) × Upload :=
  match u.send (.chunk chunk) with
  | (.ready (.ok ()), u) => (.ready (.ok ()), { u with written := u.written + chunk.length })
  | result => result

/-- The report, when the backend has left. -/
def outcome (u : Upload) : Poll Report :=
  if u.reported then .ready (.error alreadyFailed)
  else
    match u.backend with
    | .listening => .pending
    | .gone (some report) => .ready report
    | .gone none => .ready (.error backendDropped)

/-- How far a writer that is done has come. -/
inductive Closing where
  /-- It has to send the end frame. -/
  | sending
  /-- It waits for the report. -/
  | awaiting
  deriving DecidableEq

/-- **Sends the end frame and waits for the report**; the writer goes away. -/
def close (u : Upload) : Closing → Poll Report × Closing × Upload
  | .awaiting => (u.outcome, .awaiting, u)
  | .sending =>
    match u.send .finish with
    | (.pending, u) => (.pending, .sending, u)
    | (.ready (.error e), u) => (.ready (.error e), .sending, u.leave)
    | (.ready (.ok ()), u) => (u.outcome, .awaiting, u.leave)

/-- Gives the upload up and lets the writer go; what is left is to wait for the report. -/
def abort (u : Upload) : Upload := u.cancel.leave

/-! ## The backend -/

/-- **Receives what comes next.**  Without a writer and without an end frame the upload counts as
given up. -/
def receive (u : Upload) : Poll UploadEvent × Upload :=
  if u.cancelled then (.ready .aborted, u)
  else
    match u.queue with
    | .chunk data :: queue =>
      (.ready (.chunk data), { u with queue, received := u.received + data.length })
    | .finish :: queue => (.ready .finished, { u with queue })
    | [] => if u.writer then (.pending, u) else (.ready .aborted, u)

/-- The backend leaves with a report; what is on its way is lost. -/
def settle (u : Upload) (report : Report) : Upload :=
  { u with queue := [], backend := .gone (some report) }

/-- The backend leaves without a report. -/
def drop (u : Upload) : Upload := { u with queue := [], backend := .gone none }

end Upload

end RegistryProxy
