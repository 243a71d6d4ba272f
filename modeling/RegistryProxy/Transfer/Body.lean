import RegistryProxy.Error
import RegistryProxy.Text.Utf8

/-!
# Transfer/Body — bytes that arrive over time

A `Body` is the rest of what a source will do, one `Part` for each time it is asked.  `Body.poll`
asks once.  A source that stalls is never asked past that point, so its body stays the same.
-/

namespace RegistryProxy

universe u

/-- What asking once gives. -/
inductive Poll (α : Type u) where
  /-- Nothing yet. -/
  | pending
  /-- An answer. -/
  | ready (value : α)
  deriving DecidableEq

namespace Poll

variable {α : Type u}

/-- Applies a function to the answer. -/
def map {β : Type u} (f : α → β) : Poll α → Poll β
  | .pending => .pending
  | .ready a => .ready (f a)

/-- Whether there is an answer. -/
def isReady : Poll α → Bool
  | .pending => false
  | .ready _ => true

end Poll

/-- What a source does when it is asked for more; `ε` is how it fails. -/
inductive Part (ε : Type) where
  /-- It hands out bytes, possibly none. -/
  | chunk (data : Bytes)
  /-- It fails. -/
  | fault (e : ε)
  /-- It is not ready this time. -/
  | wait
  /-- It will never be ready again. -/
  | stall
  deriving DecidableEq

/-- The same part with its failure in other words. -/
def Part.mapFault {ε δ : Type} (f : ε → δ) : Part ε → Part δ
  | .chunk data => .chunk data
  | .fault e => .fault (f e)
  | .wait => .wait
  | .stall => .stall

/-- The rest of what a source does; behind the last part it ends. -/
abbrev Body := List (Part Error)

namespace Body

/-- **Asks a source once**: a chunk, a failure or, as `none`, the end. -/
def poll : Body → Poll (Option (Except Error Bytes)) × Body
  | [] => (.ready none, [])
  | .chunk data :: rest => (.ready (some (.ok data)), rest)
  | .fault e :: rest => (.ready (some (.error e)), rest)
  | .wait :: rest => (.pending, rest)
  | .stall :: rest => (.pending, .stall :: rest)

/-- Cuts pieces of `size` bytes off the front, at most `fuel` of them.  `done` holds the pieces so
far, latest first. -/
def cut (size : Nat) : Nat → List Bytes → Bytes → List Bytes
  | 0, done, _ => done.reverse
  | fuel + 1, done, data =>
    if data.isEmpty then done.reverse else cut size fuel (data.take size :: done) (data.drop size)

/-- Bytes in pieces of `size`, at least one; only the last piece may be shorter. -/
def pieces (size : Nat) (data : Bytes) : List Bytes := cut (max size 1) data.length [] data

/-- The source that hands out bytes in pieces of `size`. -/
def ofBytes (data : Bytes) (size : Nat) : Body := (pieces size data).map .chunk

end Body

end RegistryProxy
