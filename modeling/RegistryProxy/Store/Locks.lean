import RegistryProxy.Dict

/-!
# Store/Locks — one lock for each key in use

Locks are made when a key is first asked for, and removed when the last one to hold them finds
nobody waiting.  Asking for a lock takes two steps: `join` becomes a party to the lock that the
table has for the key at that time, and `enqueue` gets in line for it; of the parties in line for
one lock the first has it.  Letting a guard go takes two steps as well, `release` and then `tidy`.
Others may come between the steps; a party that never became a guard is only released.
-/

namespace RegistryProxy

/-- Somebody who holds or waits for a lock. -/
structure Locks.Party where
  /-- The number of the party. -/
  ticket : Nat
  /-- The key that was asked for. -/
  key : String
  /-- The lock that the key had. -/
  lock : Nat
  /-- Whether the party is in line for its lock. -/
  queued : Bool := false
  /-- Whether the party is a guard: it was told that it has the lock. -/
  held : Bool := false
  deriving DecidableEq, Repr

/-- The locks of all keys in use. -/
structure Locks where
  /-- The lock of each key. -/
  table : Dict Nat := ∅
  /-- The parties to all locks, each behind those that were in line before it. -/
  parties : List Locks.Party := []
  /-- A number that no party and no lock has had. -/
  fresh : Nat := 0

namespace Locks

/-- Becomes a party to the lock of a key, which is made when there is none. -/
def join (l : Locks) (key : String) : Nat × Locks :=
  let ticket := l.fresh
  let lock := (l.table.find? key).getD ticket
  (ticket, {
    table := l.table.insert key lock
    parties := l.parties ++ [{ ticket, key, lock }]
    fresh := ticket + 1 })

/-- A party gets in line for its lock, behind all others. -/
def enqueue (l : Locks) (ticket : Nat) : Locks :=
  { l with
    parties := l.parties.filter (fun c => c.ticket != ticket) ++
      (l.parties.filter fun c => c.ticket == ticket).map fun c => { c with queued := true } }

/-- **Asks for the lock of a key**, both steps at once. -/
def request (l : Locks) (key : String) : Nat × Locks :=
  let (ticket, l) := l.join key
  (ticket, l.enqueue ticket)

/-- The party with a number. -/
def party? (l : Locks) (ticket : Nat) : Option Party := l.parties.find? fun c => c.ticket == ticket

/-- The party that has a lock: the first in line. -/
def owner? (l : Locks) (lock : Nat) : Option Party :=
  l.parties.find? fun c => c.lock == lock && c.queued

/-- Whether a party has its lock. -/
def owns (l : Locks) (ticket : Nat) : Bool :=
  match l.party? ticket with
  | none => false
  | some c => (l.owner? c.lock).any fun owner => owner.ticket == ticket

/-- Marks a party as a guard. -/
def hold (l : Locks) (ticket : Nat) : Locks :=
  { l with
    parties := l.parties.map fun c => if c.ticket = ticket then { c with held := true } else c }

/-- **Asks whether a party has its lock**; if so, it is a guard from now on. -/
def poll (l : Locks) (ticket : Nat) : Bool × Locks :=
  if l.owns ticket then (true, l.hold ticket) else (false, l)

/-- Removes a party; its lock passes to the next in line. -/
def release (l : Locks) (ticket : Nat) : Locks :=
  { l with parties := l.parties.filter fun c => c.ticket != ticket }

/-- Whether nobody is party to a lock. -/
def isIdle (l : Locks) (lock : Nat) : Bool := l.parties.all fun c => c.lock != lock

/-- Removes the lock of a key, if nobody is party to it. -/
def tidy (l : Locks) (key : String) : Locks :=
  match l.table.find? key with
  | none => l
  | some lock => if l.isIdle lock then { l with table := l.table.erase key } else l

/-- **Drops a party**: a guard is released and its key tidied up, any other party is released. -/
def drop (l : Locks) (ticket : Nat) : Locks :=
  match l.party? ticket with
  | none => l
  | some c => if c.held then (l.release ticket).tidy c.key else l.release ticket

/-- How many keys have a lock. -/
def active (l : Locks) : Nat := l.table.size

end Locks

end RegistryProxy
