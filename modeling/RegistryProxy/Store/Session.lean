import RegistryProxy.Store.Tarballs
import RegistryProxy.Store.Update

/-!
# Store/Session — a store with work in progress

A `Store.Session` keeps the updates and uploads that a user has begun, each under a name of the
user's choice.  Uploads wait for the store as long as it makes progress; updates are polled once at
a time.
-/

namespace RegistryProxy

/-- What an operation on a store answers. -/
inductive Store.Outcome where
  /-- It was done. -/
  | done
  /-- It has to wait. -/
  | waiting
  /-- Nothing is in progress under this name. -/
  | gone
  /-- The update was dropped. -/
  | cancelled
  /-- The upload was dropped. -/
  | dropped
  /-- The upload was opened. -/
  | opened
  /-- It failed. -/
  | failed (e : Error)
  /-- A package. -/
  | package (p : Package)
  /-- So many bytes were written to the upload. -/
  | written (count : Nat)
  /-- So many bytes were stored. -/
  | stored (count : Nat)

/-- A store with work in progress. -/
structure Store.Session where
  /-- The store. -/
  store : Store
  /-- The updates that are not over. -/
  updates : Dict Update := ∅
  /-- The uploads that are not over, as indices of their intakes. -/
  uploads : Dict Nat := ∅
  /-- The uploads that can be aborted from outside. -/
  handles : Dict Nat := ∅
  /-- What was logged, oldest first. -/
  log : Log := []

namespace Store.Session

/-- The outcome of something that was asked once. -/
def outcome {α : Type} (f : α → Outcome) : Poll (Except Error α) → Outcome
  | .pending => .waiting
  | .ready (.ok a) => f a
  | .ready (.error e) => .failed e

/-- The session with another store, and more in the log. -/
def advance (s : Session) (store : Store) (log : Log) : Session :=
  { s with store, log := s.log ++ log }

/-- Lets all intakes run until they wait. -/
def settle (s : Session) : Session :=
  let (store, log) := s.store.settle
  s.advance store log

/-! ## Packages -/

/-- Stores a new package. -/
def create (s : Session) (name : String) (p : Package) : Outcome × Session :=
  match s.store.packages.create name p with
  | .error e => (.failed e, s)
  | .ok packages => (.done, { s with store := { s.store with packages } })

/-- Stores a package. -/
def save (s : Session) (name : String) (p : Package) : Outcome × Session :=
  (.done, { s with store := { s.store with packages := s.store.packages.save name p } })

/-- Removes a package. -/
def delete (s : Session) (name : String) : Outcome × Session :=
  (.done, { s with store := { s.store with packages := s.store.packages.erase name } })

/-- Reads a package. -/
def read (s : Session) (name : String) : Outcome :=
  outcome .package (.ready (s.store.packages.read name))

/-! ## Updates -/

/-- Polls an update. -/
def pollUpdate (s : Session) (id : String) : Outcome × Session :=
  match s.updates.find? id with
  | none => (.gone, s)
  | some u =>
    let (r, u, store) := u.poll s.store
    let updates := if r.isReady then s.updates.erase id else s.updates.insert id u
    (outcome .package r, { s with store, updates })

/-- Drops an update. -/
def cancelUpdate (s : Session) (id : String) : Outcome × Session :=
  match s.updates.find? id with
  | none => (.gone, s)
  | some u => (.cancelled, { s with store := u.cancel s.store, updates := s.updates.erase id })

/-- Begins an update, in place of one with the same name. -/
def beginUpdate (s : Session) (id : String) (u : Update) : Outcome × Session :=
  let s := (s.cancelUpdate id).2
  { s with updates := s.updates.insert id u }.pollUpdate id

/-- Lets the writer of an update go on. -/
def freeUpdate (s : Session) (id : String) : Outcome × Session :=
  match s.updates.find? id with
  | none => (.gone, s)
  | some u => { s with updates := s.updates.insert id u.free }.pollUpdate id

/-- Makes an update that nobody else has to see waiting. -/
def update (s : Session) (u : Update) : Outcome × Session :=
  let (r, _, store) := u.poll s.store
  (outcome .package r, { s with store })

/-! ## Uploads -/

/-- Drops an upload. -/
def dropUpload (s : Session) (id : String) : Outcome × Session :=
  match s.uploads.find? id with
  | none => (.gone, s)
  | some i => (.dropped, {
      s with store := s.store.onUpload i Upload.leave, uploads := s.uploads.erase id })

/-- Opens an upload, in place of one with the same name. -/
def openWrite (s : Session) (id name : String) : Outcome × Session :=
  match s.store.openWrite name with
  | (.error e, store) => (.failed e, { s with store })
  | (.ok i, store) =>
    let s := (dropUpload { s with store } id).2
    (.opened, { s with uploads := s.uploads.insert id i, handles := s.handles.insert id i })

/-- Writes a chunk to an upload: how many bytes were written so far. -/
def write (s : Session) (id : String) (chunk : Bytes) : Outcome × Session :=
  match s.uploads.find? id with
  | none => (.gone, s)
  | some i =>
    let (r, store, log) := s.store.write i chunk
    let total := ((store.upload? i).map Upload.written).getD 0
    (outcome (fun _ => .written total) r, s.advance store log)

/-- Ends an upload. -/
def finish (s : Session) (id : String) : Outcome × Session :=
  match s.uploads.find? id with
  | none => (.gone, s)
  | some i =>
    let (r, store, log) := s.store.finish i
    (outcome .stored r, { s with uploads := s.uploads.erase id }.advance store log)

/-- Gives an upload up. -/
def abort (s : Session) (id : String) : Outcome × Session :=
  match s.uploads.find? id with
  | none => (.gone, s)
  | some i =>
    let (r, store, log) := s.store.abort i
    (outcome .stored r, { s with uploads := s.uploads.erase id }.advance store log)

/-- Aborts an upload from outside. -/
def abortAny (s : Session) (id : String) : Outcome × Session :=
  match s.handles.find? id with
  | none => (.gone, s)
  | some i => (.done, { s with store := s.store.onUpload i Upload.cancel })

/-- Copies a tarball to another name; `aborted` aborts the copy before it starts. -/
def copy (s : Session) (source target : String) (aborted : Bool) : Outcome × Session :=
  match s.store.openRead source with
  | .error e => (.failed e, s)
  | .ok stream =>
    match s.store.openWrite target with
    | (.error e, store) => (.failed e, { s with store })
    | (.ok i, store) =>
      let (r, store, log) := store.copy i (if aborted then stream.abort else stream)
      (outcome .stored r, s.advance store log)

end Store.Session

end RegistryProxy
