import RegistryProxy.Store.Basic
import RegistryProxy.Transfer.Pipe

/-!
# Store/Update — changing a package while others wait

An `Update` takes the lock of its package, reads it, transforms what it read and hands the result to
a writer, one step at a time.  When reading or the transform fails nothing is written.  The lock is
released and its key tidied up before the result is told, whatever it is.
-/

namespace RegistryProxy

/-- A change of a package; it may refuse. -/
abbrev Transform := Package → Except Error Package

/-- Who puts a changed package into the store. -/
structure Writer where
  /-- How often it is not ready before it writes; `none` is always. -/
  waits : Option Nat := some 0
  /-- What it writes for a name and a package. -/
  write : String → Package → Documents → Except Error Unit × Documents

/-- The writer that saves under the name. -/
def Writer.saving : Writer := { write := fun name p d => (.ok (), d.save name p) }

/-- What an update does next.  The number is that of its place at the lock. -/
inductive Update.Stage where
  /-- Becomes a party to the lock. -/
  | start
  /-- Gets in line for the lock. -/
  | joined (ticket : Nat)
  /-- Waits for the lock. -/
  | queued (ticket : Nat)
  /-- Reads the package. -/
  | locked (ticket : Nat)
  /-- Transforms what it read. -/
  | loaded (ticket : Nat) (p : Package)
  /-- Lets the writer write. -/
  | writing (ticket : Nat) (p : Package) (waits : Option Nat)
  /-- Releases the lock. -/
  | leaving (ticket : Nat) (result : Except Error Package)
  /-- Tidies up the key. -/
  | tidying (result : Except Error Package)
  /-- Tells the result. -/
  | over (result : Except Error Package)

/-- A change of a stored package. -/
structure Update where
  /-- The name of the package. -/
  name : String
  /-- The change. -/
  transform : Transform
  /-- Who writes it. -/
  writer : Writer := .saving
  /-- What comes next. -/
  stage : Update.Stage := .start

namespace Update

/-- The error of a writer as the update tells it: what failed inside stays, anything else is the
cause. -/
def writeError (name : String) : Error → Error
  | .internal message cause => .internal message cause
  | e => .internal ("failed to write package '" ++ name ++ "'") (.error e)

/-- The result of an update whose writer answered. -/
def written (name : String) (p : Package) : Except Error Unit → Except Error Package
  | .ok () => .ok p
  | .error e => .error (writeError name e)

/-- The update at another stage. -/
def goTo (u : Update) (stage : Stage) : Update := { u with stage }

/-- **Does what comes next.** -/
def step (u : Update) (s : Store) : Progress (Except Error Package) × Update × Store :=
  match u.stage with
  | .start =>
    let (ticket, locks) := s.locks.join u.name
    (.goOn, u.goTo (.joined ticket), { s with locks })
  | .joined ticket =>
    (.goOn, u.goTo (.queued ticket), { s with locks := s.locks.enqueue ticket })
  | .queued ticket =>
    match s.locks.poll ticket with
    | (true, locks) => (.goOn, u.goTo (.locked ticket), { s with locks })
    | (false, _) => (.wait, u, s)
  | .locked ticket =>
    match s.packages.read u.name with
    | .ok p => (.goOn, u.goTo (.loaded ticket p), s)
    | .error e => (.goOn, u.goTo (.leaving ticket (.error e)), s)
  | .loaded ticket p =>
    match u.transform p with
    | .ok p => (.goOn, u.goTo (.writing ticket p u.writer.waits), s)
    | .error e => (.goOn, u.goTo (.leaving ticket (.error e)), s)
  | .writing _ _ none => (.wait, u, s)
  | .writing ticket p (some (n + 1)) => (.wait, u.goTo (.writing ticket p (some n)), s)
  | .writing ticket p (some 0) =>
    let (answer, packages) := u.writer.write u.name p s.packages
    (.goOn, u.goTo (.leaving ticket (written u.name p answer)), { s with packages })
  | .leaving ticket result =>
    (.goOn, u.goTo (.tidying result), { s with locks := s.locks.release ticket })
  | .tidying result => (.goOn, u.goTo (.over result), { s with locks := s.locks.tidy u.name })
  | .over result => (.over result, u, s)

/-- Does at most `fuel` things. -/
def run : Nat → Update → Store → Poll (Except Error Package) × Update × Store
  | 0, u, s => (.pending, u, s)
  | fuel + 1, u, s =>
    match u.step s with
    | (.goOn, u, s) => run fuel u s
    | (.wait, u, s) => (.pending, u, s)
    | (.over result, u, s) => (.ready result, u, s)

/-- **Goes on until it is over or has to wait.** -/
def poll (u : Update) (s : Store) : Poll (Except Error Package) × Update × Store := run 9 u s

/-- Lets a writer that waits go on. -/
def free (u : Update) : Update :=
  match u.stage with
  | .writing ticket p _ => u.goTo (.writing ticket p (some 0))
  | _ => { u with writer := { u.writer with waits := some 0 } }

/-- Drops an update that is not over, with its place at the lock. -/
def cancel (u : Update) (s : Store) : Store :=
  match u.stage with
  | .start | .over _ => s
  | .joined ticket | .queued ticket | .locked ticket | .loaded ticket _ | .writing ticket _ _
  | .leaving ticket _ => { s with locks := s.locks.drop ticket }
  | .tidying _ => { s with locks := s.locks.tidy u.name }

end Update

end RegistryProxy
