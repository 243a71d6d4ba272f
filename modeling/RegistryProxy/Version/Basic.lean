/-!
# Version/Basic — release versions and their text

A `Version` is three numbers, an optional prerelease and optional build metadata.  `text` writes it
in the canonical spelling.
-/

namespace RegistryProxy

/-- A version of a package. -/
structure Version where
  /-- Raised by changes that break users. -/
  major : Nat
  /-- Raised by additions. -/
  minor : Nat
  /-- Raised by repairs. -/
  patch : Nat
  /-- Dot-separated identifiers; a version that has them precedes its release. -/
  prerelease : Option String := none
  /-- Dot-separated identifiers that no comparison looks at. -/
  build : Option String := none
  deriving DecidableEq, Repr

namespace Version

/-- The canonical spelling. -/
def text (v : Version) : String :=
  let release := Nat.repr v.major ++ "." ++ Nat.repr v.minor ++ "." ++ Nat.repr v.patch
  let release := match v.prerelease with
    | none => release
    | some pre => release ++ "-" ++ pre
  match v.build with
  | none => release
  | some build => release ++ "+" ++ build

/-- Whether the version precedes its release. -/
def isPrerelease (v : Version) : Bool := v.prerelease.isSome

end Version

end RegistryProxy
