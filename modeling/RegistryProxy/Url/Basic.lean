import RegistryProxy.Url.Host

/-!
# Url/Basic — addresses on the web

A `Url` holds its parts as they are written, with everything escaped that has to be.  `Url.text`
puts them together.
-/

namespace RegistryProxy

/-- The path of an address. -/
inductive Url.Path where
  /-- Segments, a slash in front of each. -/
  | segments (list : List String)
  /-- Text of a scheme that has no paths. -/
  | plain (text : String)
  deriving DecidableEq, Repr

/-- An address on the web. -/
structure Url where
  /-- The scheme, in lower case. -/
  scheme : String
  /-- The name of a user. -/
  username : String := ""
  /-- The password of the user. -/
  password : String := ""
  /-- The host. -/
  host : Option Url.Host := none
  /-- The number behind the colon of the host, unless it is the usual one of the scheme. -/
  portNumber : Option Nat := none
  /-- The path. -/
  path : Url.Path := .segments []
  /-- What follows the question mark. -/
  query : Option String := none
  /-- What follows the number sign. -/
  fragment : Option String := none
  deriving DecidableEq, Repr

namespace Url

/-- The path as text. -/
def Path.text : Path → String
  | .segments list => String.join (list.map fun s => "/" ++ s)
  | .plain text => text

/-- The user and the password in front of the host. -/
def credentials (u : Url) : String :=
  let password := if u.password.isEmpty then "" else ":" ++ u.password
  if u.username.isEmpty ∧ u.password.isEmpty then "" else u.username ++ password ++ "@"

/-- The host, with its number if there is one. -/
def authority (u : Url) : String :=
  match u.host, u.portNumber with
  | none, _ => ""
  | some host, none => host.text
  | some host, some n => host.text ++ ":" ++ Nat.repr n

/-- Whether there is a host that is not empty. -/
def hasHost (u : Url) : Bool := u.host.any (· != .domain "")

/-- **The address as text.** -/
def text (u : Url) : String :=
  u.scheme ++ ":" ++ (if u.host.isSome then "//" ++ u.credentials ++ u.authority else "") ++
    u.path.text ++ ((u.query.map ("?" ++ ·)).getD "") ++ ((u.fragment.map ("#" ++ ·)).getD "")

end Url

end RegistryProxy
