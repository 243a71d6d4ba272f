import RegistryProxy.Log
import RegistryProxy.Transfer.Body

/-!
# Transfer/Stream — a tarball on its way in

A `Stream` opens its source, which may take a while and tells the length of the tarball, and then
hands out the chunks of its body.  A failure is handed out once and ends the stream; an aborted
stream asks its source no more.  When the body ends, what came is compared with the length that was
declared.
-/

namespace RegistryProxy

/-- How far a stream has come. -/
inductive Stage where
  /-- The source has not answered. -/
  | opening
  /-- Chunks are coming. -/
  | transferring
  /-- All chunks came, as many bytes as declared. -/
  | completed
  /-- Somebody gave it up. -/
  | aborted
  /-- It failed. -/
  | errored
  deriving DecidableEq, Repr

/-- The name of a stage. -/
def Stage.text : Stage → String
  | .opening => "Opening"
  | .transferring => "Transferring"
  | .completed => "Completed"
  | .aborted => "Aborted"
  | .errored => "Errored"

/-- What a source answers when it opens. -/
structure Opened where
  /-- The chunks. -/
  body : Body
  /-- How many bytes they are, if it tells. -/
  length : Option Nat := none
  deriving DecidableEq

/-- A source that opens: how many times it is not ready before it answers (`none` is always), and
the answer. -/
structure Opening where
  /-- How often it is not ready. -/
  waits : Option Nat := some 0
  /-- What it answers in the end. -/
  answer : Except Error Opened

namespace Opening

/-- Asks a source once whether it has opened. -/
def poll (o : Opening) : Poll (Except Error Opened) × Opening :=
  match o.waits with
  | none => (.pending, o)
  | some 0 => (.ready o.answer, o)
  | some (n + 1) => (.pending, { o with waits := some n })

end Opening

/-- Where chunks come from. -/
inductive Source where
  /-- It has not opened. -/
  | opening (o : Opening)
  /-- It hands out chunks. -/
  | body (rest : Body)
  /-- It is not asked any more. -/
  | spent

/-- A tarball on its way in. -/
structure Stream where
  /-- Where chunks come from. -/
  source : Source
  /-- How far it has come. -/
  stage : Stage
  /-- How many bytes were declared. -/
  expected : Option Nat := none
  /-- How many bytes were handed out. -/
  observed : Nat := 0
  /-- Whether somebody gave it up. -/
  cancelled : Bool := false

namespace Stream

/-! ## Streams to begin with -/

/-- A stream that has to open its source. -/
def ofOpening (o : Opening) : Stream := { source := .opening o, stage := .opening }

/-- A stream with chunks at hand. -/
def ofBody (body : Body) (length : Option Nat) : Stream :=
  { source := .body body, stage := .transferring, expected := length }

/-- A stream of bytes at hand, in pieces of `size`. -/
def ofBytes (data : Bytes) (size : Nat) : Stream := ofBody (.ofBytes data size) (some data.length)

/-- A stream that fails when it is asked. -/
def failed (e : Error) : Stream := ofOpening { answer := .error e }

/-- The size of the pieces that tarballs at hand are handed out in. -/
def pieceSize : Nat := 64 * 1024

/-! ## Steps -/

/-- The error of an open stream that was given up. -/
def abortedError : Error := .aborted "tarball transfer aborted"

/-- The error of a stream that was given up while its source opened. -/
def abortedWhileOpening : Error := .aborted "transfer aborted while opening"

/-- The error of opening a stream that was given up before. -/
def abortedBefore : Error := .aborted "transfer was aborted"

/-- The error of opening a stream that failed before. -/
def failedBefore : Error := .internal "transfer already failed" .unknown

/-- What is logged when a body has another length than declared. -/
def mismatch : LogEntry := .warning "tarball length does not match the declared length"

/-- Gives the stream up; it learns of it when it is asked. -/
def abort (s : Stream) : Stream := { s with cancelled := true }

/-- Ends the stream at a stage. -/
def endAt (s : Stream) (stage : Stage) : Stream := { s with source := .spent, stage }

/-- **Asks once for the source to open**: the declared length.  No chunk is taken. -/
def pollOpen (s : Stream) : Poll (Except Error (Option Nat)) × Stream :=
  match s.stage with
  | .transferring | .completed => (.ready (.ok s.expected), s)
  | .aborted => (.ready (.error abortedBefore), s)
  | .errored => (.ready (.error failedBefore), s)
  | .opening =>
    if s.cancelled then (.ready (.error abortedWhileOpening), s.endAt .aborted)
    else
      match s.source with
      | .opening o =>
        match o.poll with
        | (.pending, o) => (.pending, { s with source := .opening o })
        | (.ready (.ok opened), _) =>
          (.ready (.ok opened.length), {
            s with source := .body opened.body, stage := .transferring, expected := opened.length })
        | (.ready (.error e), _) => (.ready (.error e), s.endAt .errored)
      | _ => (.ready (.ok s.expected), s)

/-- What asking a stream once gives. -/
structure Turn where
  /-- A chunk, a failure or, as `none`, the end. -/
  item : Poll (Option (Except Error Bytes))
  /-- The stream afterwards. -/
  stream : Stream
  /-- What is logged. -/
  log : Log := []

/-- The end of the body: the lengths are compared. -/
def finish (s : Stream) : Turn :=
  match s.expected with
  | some expected =>
    if expected = s.observed then { item := .ready none, stream := s.endAt .completed }
    else {
      item := .ready (some (.error (.contentMismatch expected s.observed)))
      stream := s.endAt .errored
      log := [mismatch] }
  | none => { item := .ready none, stream := s.endAt .completed }

/-- Asks the body once. -/
def pollBody (s : Stream) (body : Body) : Turn :=
  match body.poll with
  | (.pending, body) => { item := .pending, stream := { s with source := .body body } }
  | (.ready (some (.ok chunk)), body) => {
      item := .ready (some (.ok chunk))
      stream := { s with source := .body body, observed := s.observed + chunk.length } }
  | (.ready (some (.error e)), _) =>
    { item := .ready (some (.error e)), stream := s.endAt .errored }
  | (.ready none, _) => s.finish

/-- **Asks once for the next chunk**; the source is opened first. -/
def next (s : Stream) : Turn :=
  match s.source with
  | .spent => { item := .ready none, stream := s }
  | .body body =>
    if s.cancelled then { item := .ready (some (.error abortedError)), stream := s.endAt .aborted }
    else s.pollBody body
  | .opening _ =>
    if s.cancelled then { item := .ready (some (.error abortedError)), stream := s.endAt .aborted }
    else
      match s.pollOpen with
      | (.pending, s) => { item := .pending, stream := s }
      | (.ready (.error e), s) => { item := .ready (some (.error e)), stream := s }
      | (.ready (.ok _), s) =>
        match s.source with
        | .body body => s.pollBody body
        | _ => { item := .ready none, stream := s }

/-- How many parts the source may still hand out. -/
def remaining (s : Stream) : Nat :=
  match s.source with
  | .opening { answer := .ok opened, .. } => opened.body.length
  | .body body => body.length
  | _ => 0

/-- The stream on one line. -/
def summary (s : Stream) : String :=
  let expected := match s.expected with
    | none => "None"
    | some n => "Some(" ++ Nat.repr n ++ ")"
  "TarballStream \x7b state: " ++ s.stage.text ++ ", expected_length: " ++ expected ++
    ", observed_length: " ++ Nat.repr s.observed ++ " \x7d"

end Stream

end RegistryProxy
