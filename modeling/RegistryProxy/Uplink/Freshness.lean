import RegistryProxy.Duration
import RegistryProxy.Package.Basic

/-!
# Uplink/Freshness — how long a fetched document needs no second fetch

An uplink leaves a mark with every document it serves.  A document is fresh for an uplink from the
moment of the mark until `maxage` has passed; a mark from the future, or outside the calendar, makes
it stale.  Times are nanoseconds since 1970, marks are whole milliseconds.
-/

namespace RegistryProxy

/-- A moment, in nanoseconds since 1970. -/
abbrev Moment := Int

/-- The nanoseconds of a millisecond. -/
def Moment.perMillisecond : Int := 1000000

/-- The moment of a mark, when the calendar reaches it. -/
def Mark.moment? (m : Mark) : Option Moment :=
  if -8334601228800000 ≤ m.fetched ∧ m.fetched ≤ 8210266876799999 then
    some (m.fetched * Moment.perMillisecond)
  else none

/-- What one uplink counts as fresh. -/
structure Freshness where
  /-- The name of the uplink. -/
  uplink : String
  /-- How long a document stays fresh. -/
  maxage : Duration

namespace Freshness

/-- **Whether a document needs no fetch from this uplink now.** -/
def isFreshAt (f : Freshness) (p : Package) (now : Moment) : Bool :=
  match p.marks.find? f.uplink >>= Mark.moment? with
  | none => false
  | some fetched => fetched ≤ now && now - fetched < f.maxage.nanoseconds

/-- The tag that came with the last fetch from this uplink. -/
def cachedEtag (f : Freshness) (p : Package) : Option String :=
  p.marks.find? f.uplink >>= Mark.etag

/-- Leaves the mark of a fetch that ended now. -/
def markFetchedAt (f : Freshness) (p : Package) (etag : Option String) (now : Moment) : Package :=
  { p with marks := p.marks.insert f.uplink ⟨etag, now / Moment.perMillisecond⟩ }

end Freshness

end RegistryProxy
