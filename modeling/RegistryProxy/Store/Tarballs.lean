import RegistryProxy.Store.Basic
import RegistryProxy.Transfer.Pipe

/-!
# Store/Tarballs — tarballs into the store and out of it

`openWrite` claims a name and starts an intake, which takes one step at a time: it receives, stores
the whole tarball, gives the name free and reports.  An upload that ends without its end frame
stores nothing.  `settle` lets every intake run until it waits.
-/

namespace RegistryProxy.Store

/-! ## Starting -/

/-- Claims a name, unless somebody else has. -/
def claim (s : Store) (name : String) : Except Error Store :=
  if s.claimed.contains name then .error (.conflict name)
  else .ok { s with claimed := name :: s.claimed }

/-- Gives a name free. -/
def unclaim (s : Store) (name : String) : Store :=
  { s with claimed := s.claimed.filter fun n => n != name }

/-- Adds the intake for a name that was claimed: its index. -/
def addIntake (s : Store) (name : String) : Nat × Store :=
  (s.intakes.length, { s with intakes := s.intakes ++ [{ name }] })

/-- Starts the intake for a name that was claimed, unless the tarball is there: its index. -/
def startIntake (s : Store) (name : String) : Except Error Nat × Store :=
  if s.hasTarball name then (.error (.conflict name), s.unclaim name)
  else
    let (i, s) := s.addIntake name
    (.ok i, s)

/-- **Opens a tarball for writing**: the index of its intake. -/
def openWrite (s : Store) (name : String) : Except Error Nat × Store :=
  match s.claim name with
  | .error e => (.error e, s)
  | .ok s => s.startIntake name

/-- **Opens a tarball for reading.** -/
def openRead (s : Store) (name : String) : Except Error Stream :=
  match s.tarballs.find? name with
  | none => .error (.notFound name)
  | some data => .ok (.ofBytes data Stream.pieceSize)

/-! ## Intakes -/

/-- What is logged when an upload ends without its end frame. -/
def uploadAborted : LogEntry := .warning "tarball upload aborted"

/-- What the writer of such an upload is told. -/
def transmissionAborted : Error := .aborted "transmission aborted"

/-- The upload behind an index. -/
def upload? (s : Store) (i : Nat) : Option Upload := (s.intakes[i]?).map Intake.upload

/-- Replaces an intake. -/
def setIntake (s : Store) (i : Nat) (t : Intake) : Store := { s with intakes := s.intakes.set i t }

/-- Replaces the upload behind an index. -/
def setUpload (s : Store) (i : Nat) (u : Upload) : Store :=
  match s.intakes[i]? with
  | none => s
  | some t => s.setIntake i { t with upload := u }

/-- Applies a function to the upload behind an index. -/
def onUpload (s : Store) (i : Nat) (f : Upload → Upload) : Store :=
  match s.upload? i with
  | none => s
  | some u => s.setUpload i (f u)

/-- What is logged with a report. -/
def reportLog : Report → Log
  | .ok _ => []
  | .error _ => [uploadAborted]

/-- Receives from the upload. -/
def receive (s : Store) (i : Nat) (t : Intake) : Progress Unit × Store :=
  match t.upload.receive with
  | (.pending, upload) => (.wait, s.setIntake i { t with upload })
  | (.ready (.chunk data), upload) =>
    (.goOn, s.setIntake i { t with upload, buffer := t.buffer ++ data })
  | (.ready .finished, upload) => (.goOn, s.setIntake i { t with upload, stage := .storing })
  | (.ready .aborted, upload) =>
    (.goOn, s.setIntake i { t with upload, stage := .releasing (.error transmissionAborted) })

/-- **Lets an intake do its next thing.** -/
def intakeStep (s : Store) (i : Nat) : Progress Unit × Store × Log :=
  match s.intakes[i]? with
  | none => (.over (), s, [])
  | some t =>
    match t.stage with
    | .receiving =>
      let (progress, s) := s.receive i t
      (progress, s, [])
    | .storing =>
      let s := { s with tarballs := s.tarballs.insert t.name t.buffer }
      (.goOn, s.setIntake i { t with stage := .releasing (.ok t.buffer.length) }, [])
    | .releasing report =>
      (.goOn, (s.unclaim t.name).setIntake i { t with stage := .reporting report }, [])
    | .reporting report =>
      (.goOn, s.setIntake i { t with upload := t.upload.settle report, stage := .over },
        reportLog report)
    | .over => (.over (), s, [])

/-- Lets an intake do at most `fuel` things. -/
def runIntake (i : Nat) : Nat → Store → Log → Store × Log
  | 0, s, log => (s, log)
  | fuel + 1, s, log =>
    match s.intakeStep i with
    | (.goOn, s, more) => runIntake i fuel s (log ++ more)
    | (_, s, more) => (s, log ++ more)

/-- How many things an intake can do before it waits. -/
def backlog (s : Store) (i : Nat) : Nat :=
  match s.upload? i with
  | none => 0
  | some u => u.queue.length + 5

/-- **Lets every intake run until it waits.** -/
def settle (s : Store) : Store × Log :=
  (List.range s.intakes.length).foldl
    (fun (s, log) i => runIntake i (s.backlog i) s log) (s, [])

/-! ## Writers that wait for the store -/

/-- Asks a writer's task again and again, with the intakes running in between, at most `fuel`
times. -/
def drive {σ ρ : Type} (s : Store) (i : Nat) (ask : σ → Upload → Poll ρ × σ × Upload) (task : σ)
    (log : Log) : Nat → Poll ρ × σ × Store × Log
  | 0 => (.pending, task, s, log)
  | fuel + 1 =>
    match s.upload? i with
    | none => (.pending, task, s, log)
    | some u =>
      let (r, task, u) := ask task u
      let (s, more) := (s.setUpload i u).settle
      match r with
      | .pending => s.drive i ask task (log ++ more) fuel
      | .ready r => (.ready r, task, s, log ++ more)

/-- Writes a chunk. -/
def write (s : Store) (i : Nat) (chunk : Bytes) : Poll (Except Error Unit) × Store × Log :=
  let ask (task : Unit) (u : Upload) := ((u.write chunk).1, task, (u.write chunk).2)
  let (r, _, s, log) := s.drive i ask () [] 2
  (r, s, log)

/-- Ends an upload and waits until the tarball is stored. -/
def finish (s : Store) (i : Nat) : Poll Report × Store × Log :=
  let ask (closing : Upload.Closing) (u : Upload) := u.close closing
  let (r, _, s, log) := s.drive i ask .sending [] 3
  (r, s, log)

/-- Gives an upload up and waits until the store has let go of it. -/
def abort (s : Store) (i : Nat) : Poll Report × Store × Log :=
  let ask (task : Unit) (u : Upload) := (u.outcome, task, u)
  let (r, _, s, log) := (s.onUpload i Upload.abort).drive i ask () [] 2
  (r, s, log)

/-- **Copies a stream into an upload** and waits until it is stored or given up. -/
def copy (s : Store) (i : Nat) (stream : Stream) : Poll Report × Store × Log :=
  let ask (p : Pipe) (u : Upload) :=
    let (r, p) := Pipe.poll { p with upload := u }
    (r, p, p.upload)
  let start : Pipe := { stream, upload := .ofCapacity Upload.storeCapacity }
  let (r, p, s, log) := s.drive i ask start [] (stream.remaining + 4)
  (r, s, p.log ++ log)

end RegistryProxy.Store
