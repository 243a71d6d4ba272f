import RegistryProxy.Transfer.Pipe

/-!
# Transfer/Session — one user, one stream, one upload

A `Session` holds the two ends of a transfer and the backend of the upload.  Short operations ask
once and give up what has to wait.  Long ones become the *task*: it takes the objects it needs away
from the user and is polled until it is over.  A new task replaces the one before.
-/

namespace RegistryProxy

/-- Who has an object. -/
inductive Holder where
  /-- The user of the session. -/
  | user
  /-- The task. -/
  | task
  /-- Nobody any more, or it never was. -/
  | nobody
  deriving DecidableEq

/-- What a task does. -/
inductive Session.Task where
  /-- Reads the stream into memory. -/
  | gather (collected : Bytes)
  /-- Copies the stream into the upload. -/
  | pipe (duty : Pipe.Duty)
  /-- Ends the upload. -/
  | close (closing : Upload.Closing)
  /-- Waits for the report of an upload that was given up. -/
  | abandon
  /-- Sends a chunk, after which the user has the writer again. -/
  | write (chunk : Bytes)

/-- What an operation of a session answers. -/
inductive Session.Outcome where
  /-- It was done. -/
  | done
  /-- It has to wait. -/
  | pending
  /-- There is no task. -/
  | idle
  /-- The user does not have the object. -/
  | gone
  /-- It failed. -/
  | failed (e : Error)
  /-- A chunk. -/
  | chunk (data : Bytes)
  /-- The end of the stream. -/
  | ended
  /-- The source opened and told its length. -/
  | opened (length : Option Nat)
  /-- The whole stream. -/
  | bytes (data : Bytes)
  /-- So many bytes were stored. -/
  | stored (count : Nat)
  /-- The chunk was sent. -/
  | written
  /-- The backend may store the tarball. -/
  | finished
  /-- The backend has to discard the tarball. -/
  | aborted

/-- A stream and an upload in the hands of one user. -/
structure Session where
  /-- The stream, if there ever was one. -/
  stream : Option Stream := none
  /-- Who has the stream. -/
  streamHolder : Holder := .nobody
  /-- The upload, if there ever was one. -/
  upload : Option Upload := none
  /-- Who has the writer of the upload. -/
  writerHolder : Holder := .nobody
  /-- Who has the backend of the upload. -/
  backendHolder : Holder := .nobody
  /-- What is being done. -/
  task : Option Session.Task := none
  /-- What was logged, oldest first. -/
  log : Log := []

namespace Session

/-- The outcome of something that was asked once. -/
def Outcome.ofPoll {α : Type} (f : α → Outcome) : Poll (Except Error α) → Outcome
  | .pending => .pending
  | .ready (.ok a) => f a
  | .ready (.error e) => .failed e

/-- Gives the user a stream. -/
def withStream (s : Session) (stream : Stream) : Session :=
  { s with stream := some stream, streamHolder := .user }

/-- Gives the user an upload and its backend. -/
def withUpload (s : Session) (capacity : Nat) : Session :=
  { s with
    upload := some (.ofCapacity capacity)
    writerHolder := .user
    backendHolder := .user }

/-- The stream, when the user has it. -/
def ownStream (s : Session) : Option Stream := if s.streamHolder = .user then s.stream else none

/-- The upload, when the user has its writer. -/
def ownWriter (s : Session) : Option Upload := if s.writerHolder = .user then s.upload else none

/-- The upload, when the user has its backend. -/
def ownBackend (s : Session) : Option Upload := if s.backendHolder = .user then s.upload else none

/-- Applies a function to the stream, wherever it is. -/
def onStream (s : Session) (f : Stream → Stream) : Session := { s with stream := s.stream.map f }

/-- Applies a function to the upload, wherever it is. -/
def onUpload (s : Session) (f : Upload → Upload) : Session := { s with upload := s.upload.map f }

/-! ## The stream -/

/-- Asks for the next chunk. -/
def next (s : Session) : Outcome × Session :=
  match s.ownStream with
  | none => (.gone, s)
  | some stream =>
    let turn := stream.next
    let s := { s with stream := some turn.stream, log := s.log ++ turn.log }
    match turn.item with
    | .pending => (.pending, s)
    | .ready none => (.ended, s)
    | .ready (some (.ok chunk)) => (.chunk chunk, s)
    | .ready (some (.error e)) => (.failed e, s)

/-- Asks the source to open. -/
def openSource (s : Session) : Outcome × Session :=
  match s.ownStream with
  | none => (.gone, s)
  | some stream =>
    let (r, stream) := stream.pollOpen
    (.ofPoll .opened r, { s with stream := some stream })

/-- Aborts a stream that the user has. -/
def abortStream (s : Session) : Outcome × Session :=
  if s.ownStream.isSome then (.done, s.onStream Stream.abort) else (.gone, s)

/-- Aborts the stream, wherever it is. -/
def abortAnyStream (s : Session) : Outcome × Session :=
  if s.stream.isSome then (.done, s.onStream Stream.abort) else (.gone, s)

/-- Lets the stream go. -/
def dropStream (s : Session) : Outcome × Session :=
  (.done, if s.streamHolder = .user then { s with streamHolder := .nobody } else s)

/-! ## The writer -/

/-- Sends a chunk, if there is room. -/
def write (s : Session) (chunk : Bytes) : Outcome × Session :=
  match s.ownWriter with
  | none => (.gone, s)
  | some upload =>
    let (r, upload) := upload.write chunk
    (.ofPoll (fun _ => .written) r, { s with upload := some upload })

/-- Aborts the upload, wherever it is. -/
def abortAnyUpload (s : Session) : Outcome × Session :=
  if s.upload.isSome then (.done, s.onUpload Upload.cancel) else (.gone, s)

/-- Lets the writer go. -/
def dropWriter (s : Session) : Outcome × Session :=
  (.done, if s.writerHolder = .user then { s with writerHolder := .nobody }.onUpload Upload.leave
    else s)

/-! ## The backend -/

/-- Asks for what comes next. -/
def receive (s : Session) : Outcome × Session :=
  match s.ownBackend with
  | none => (.gone, s)
  | some upload =>
    let (r, upload) := upload.receive
    let s := { s with upload := some upload }
    match r with
    | .pending => (.pending, s)
    | .ready (.chunk data) => (.chunk data, s)
    | .ready .finished => (.finished, s)
    | .ready .aborted => (.aborted, s)

/-- Leaves with a report. -/
def settle (s : Session) (report : Report) : Outcome × Session :=
  if s.backendHolder = .user then
    (.done, { s with backendHolder := .nobody }.onUpload fun u => u.settle report)
  else (.gone, s)

/-- Leaves without a report. -/
def dropBackend (s : Session) : Outcome × Session :=
  (.done, if s.backendHolder = .user then
    { s with backendHolder := .nobody }.onUpload Upload.drop else s)

/-! ## The task -/

/-- Drops the task with what it has taken. -/
def dropTask (s : Session) : Session :=
  let s := if s.streamHolder = .task then { s with streamHolder := .nobody } else s
  let s :=
    if s.writerHolder = .task then { s with writerHolder := .nobody }.onUpload Upload.leave else s
  { s with task := none }

/-- Keeps the task if it has to wait, and drops it if it is over. -/
def keep {α : Type} (s : Session) (r : Poll α) (task : Task) : Session :=
  if r.isReady then s.dropTask else { s with task := some task }

/-- **Polls the task.** -/
def poll (s : Session) : Outcome × Session :=
  match s.task, s.stream, s.upload with
  | some (.gather collected), some stream, _ =>
    let (r, g) := Gather.poll { stream, collected, log := s.log }
    (.ofPoll .bytes r,
      { s with stream := some g.stream, log := g.log }.keep r (.gather g.collected))
  | some (.pipe duty), some stream, some upload =>
    let (r, p) := Pipe.poll { stream, upload, duty, log := s.log }
    (.ofPoll .stored r,
      { s with stream := some p.stream, upload := some p.upload, log := p.log }.keep r
        (.pipe p.duty))
  | some (.close closing), _, some upload =>
    let (r, closing, upload) := upload.close closing
    (.ofPoll .stored r, { s with upload := some upload }.keep r (.close closing))
  | some .abandon, _, some upload =>
    let r := upload.outcome
    (.ofPoll .stored r, s.keep r .abandon)
  | some (.write chunk), _, some upload =>
    let (r, upload) := upload.write chunk
    let s := { s with upload := some upload }
    (.ofPoll (fun _ => .written) r,
      if r.isReady then { s with task := none, writerHolder := .user } else s)
  | _, _, _ => (.idle, s)

/-- Starts a task with the objects it takes away. -/
def start (s : Session) (task : Task) (stream writer : Bool) : Outcome × Session :=
  if (stream && s.ownStream.isNone) || (writer && s.ownWriter.isNone) then (.gone, s)
  else
    let s := s.dropTask
    let s := if stream then { s with streamHolder := .task } else s
    let s := if writer then { s with writerHolder := .task } else s
    { s with task := some task }.poll

/-- Reads the stream into memory. -/
def gather (s : Session) : Outcome × Session := s.start (.gather []) true false

/-- Copies the stream into the upload. -/
def pipe (s : Session) : Outcome × Session := s.start (.pipe .read) true true

/-- Ends the upload. -/
def close (s : Session) : Outcome × Session := s.start (.close .sending) false true

/-- Gives the upload up. -/
def abandon (s : Session) : Outcome × Session :=
  if s.ownWriter.isSome then (s.onUpload Upload.abort).start .abandon false true else (.gone, s)

/-- Sends a chunk and waits for room. -/
def writeWaiting (s : Session) (chunk : Bytes) : Outcome × Session :=
  s.start (.write chunk) false true

end Session

end RegistryProxy
