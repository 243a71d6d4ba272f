import RegistryProxy.Transfer.Stream
import RegistryProxy.Transfer.Upload

/-!
# Transfer/Pipe — using a stream up

`Gather` reads a stream into memory and `Pipe` copies one into an upload.  Both are done in steps
and may have to wait.  A failing stream aborts the upload and a failing upload aborts the stream, so
a tarball is stored as a whole or not at all.
-/

namespace RegistryProxy

/-- What a step of a task does. -/
inductive Progress (α : Type) where
  /-- There is more to do. -/
  | goOn
  /-- It has to wait. -/
  | wait
  /-- It is done. -/
  | over (value : α)

/-! ## Reading into memory -/

/-- A stream that is read into memory. -/
structure Gather where
  /-- The stream. -/
  stream : Stream
  /-- What came so far. -/
  collected : Bytes := []
  /-- What was logged, oldest first. -/
  log : Log := []

namespace Gather

/-- Takes one item. -/
def step (g : Gather) : Progress (Except Error Bytes) × Gather :=
  let turn := g.stream.next
  let g := { g with stream := turn.stream, log := g.log ++ turn.log }
  match turn.item with
  | .pending => (.wait, g)
  | .ready none => (.over (.ok g.collected), g)
  | .ready (some (.error e)) => (.over (.error e), g)
  | .ready (some (.ok chunk)) => (.goOn, { g with collected := g.collected ++ chunk })

/-- Takes at most `fuel` items. -/
def run : Nat → Gather → Poll (Except Error Bytes) × Gather
  | 0, g => (.pending, g)
  | fuel + 1, g =>
    match g.step with
    | (.goOn, g) => run fuel g
    | (.wait, g) => (.pending, g)
    | (.over value, g) => (.ready value, g)

/-- **Reads until the stream ends or waits.** -/
def poll (g : Gather) : Poll (Except Error Bytes) × Gather := run (g.stream.remaining + 2) g

end Gather

/-! ## Copying into an upload -/

/-- What a pipe does next. -/
inductive Pipe.Duty where
  /-- Takes an item from the stream. -/
  | read
  /-- Sends a chunk. -/
  | write (chunk : Bytes)
  /-- Ends the upload. -/
  | close (closing : Upload.Closing)
  /-- Waits for the backend to give up, to end with an error. -/
  | abandon (reason : Error)

/-- A stream that is copied into an upload. -/
structure Pipe where
  /-- The stream. -/
  stream : Stream
  /-- The upload. -/
  upload : Upload
  /-- What comes next. -/
  duty : Pipe.Duty := .read
  /-- What was logged, oldest first. -/
  log : Log := []

namespace Pipe

/-- Takes an item from the stream. -/
def read (p : Pipe) : Progress Report × Pipe :=
  let turn := p.stream.next
  let p := { p with stream := turn.stream, log := p.log ++ turn.log }
  match turn.item with
  | .pending => (.wait, p)
  | .ready none => (.goOn, { p with duty := .close .sending })
  | .ready (some (.ok chunk)) => (.goOn, { p with duty := .write chunk })
  | .ready (some (.error e)) => (.goOn, { p with duty := .abandon e, upload := p.upload.abort })

/-- Sends a chunk; when that fails the stream is aborted and both ends are let go. -/
def write (p : Pipe) (chunk : Bytes) : Progress Report × Pipe :=
  match p.upload.write chunk with
  | (.pending, upload) => (.wait, { p with upload })
  | (.ready (.ok ()), upload) => (.goOn, { p with upload, duty := .read })
  | (.ready (.error e), upload) =>
    (.over (.error e), { p with upload := upload.leave, stream := p.stream.abort })

/-- **Does what comes next.** -/
def step (p : Pipe) : Progress Report × Pipe :=
  match p.duty with
  | .read => p.read
  | .write chunk => p.write chunk
  | .close closing =>
    match p.upload.close closing with
    | (.pending, closing, upload) => (.wait, { p with upload, duty := .close closing })
    | (.ready report, closing, upload) => (.over report, { p with upload, duty := .close closing })
  | .abandon reason =>
    match p.upload.outcome with
    | .pending => (.wait, p)
    | .ready _ => (.over (.error reason), p)

/-- Does at most `fuel` steps. -/
def run : Nat → Pipe → Poll Report × Pipe
  | 0, p => (.pending, p)
  | fuel + 1, p =>
    match p.step with
    | (.goOn, p) => run fuel p
    | (.wait, p) => (.pending, p)
    | (.over report, p) => (.ready report, p)

/-- **Copies until it ends or has to wait.** -/
def poll (p : Pipe) : Poll Report × Pipe := run (2 * p.stream.remaining + 4) p

end Pipe

end RegistryProxy
