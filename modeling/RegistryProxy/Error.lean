/-!
# Error — everything that can go wrong, by cause

An `Error` names its cause and carries what the cause is about; `message` is the one place that
words it.  `statusCode`, `isRecoverable` and `suggestion` tell a front end what to answer, whether
another source may do better, and what to try.
-/

namespace RegistryProxy

mutual

/-- The reason an operation failed. -/
inductive Error where
  /-- There is no such package or tarball. -/
  | notFound (resource : String)
  /-- The package or tarball is already there. -/
  | conflict (resource : String)
  /-- The uplink failed too often of late. -/
  | offline (host : String)
  /-- The uplink answered, but with a status that is no success. -/
  | badStatus (status : Nat) (url : String)
  /-- The network failed on the way. -/
  | network (message : String) (cause : Cause)
  /-- Somebody gave the transfer up. -/
  | aborted (message : String)
  /-- The body had another length than declared. -/
  | contentMismatch (expected actual : Nat)
  /-- Something inside failed. -/
  | internal (message : String) (cause : Cause)
  /-- The credentials for an uplink cannot be used. -/
  | authConfig (reason : String)
  /-- A package without versions has no latest one. -/
  | emptyPackage (name : String)
  /-- A setting has a value that cannot be used. -/
  | configValidation (field reason : String)
  /-- The configuration text cannot be read. -/
  | tomlParse (message : String) (line column : Nat)

/-- What an error was caused by. -/
inductive Cause where
  /-- Nothing that is known. -/
  | unknown
  /-- Another error. -/
  | error (e : Error)
  /-- A failure from outside, with its wording when there is one to show. -/
  | outside (text : Option String)

end

deriving instance DecidableEq for Error, Cause

instance : Inhabited Error := ⟨.aborted ""⟩

namespace Error

/-- The wording of an error. -/
def message : Error → String
  | .notFound resource => "'" ++ resource ++ "' not found"
  | .conflict resource => "'" ++ resource ++ "' already exists"
  | .offline host => "Uplink " ++ host ++ " is offline"
  | .badStatus status url => "Bad uplink status code " ++ Nat.repr status ++ " for " ++ url
  | .network message _ => "Network error: " ++ message
  | .aborted message => "Transfer aborted: " ++ message
  | .contentMismatch expected actual =>
    "Content length mismatch: expected " ++ Nat.repr expected ++ " bytes, received " ++
      Nat.repr actual
  | .internal message _ => "Internal error: " ++ message
  | .authConfig reason => "Uplink auth misconfigured: " ++ reason
  | .emptyPackage name =>
    "Cannot resolve the latest version of '" ++ name ++ "': it has no versions"
  | .configValidation field reason =>
    "Configuration field '" ++ field ++ "' is invalid: " ++ reason
  | .tomlParse message line column =>
    "Failed to parse registry config: " ++ message ++ " at line " ++ Nat.repr line ++
      ", column " ++ Nat.repr column

/-- What the error was caused by. -/
def cause : Error → Cause
  | .network _ cause | .internal _ cause => cause
  | _ => .unknown

/-- The status a front end answers with. -/
def statusCode : Error → Nat
  | .notFound _ | .emptyPackage _ => 404
  | .conflict _ => 409
  | .aborted _ => 400
  | .offline _ => 503
  | .badStatus _ _ | .network _ _ | .contentMismatch _ _ => 502
  | _ => 500

/-- Whether another uplink or the local copy may still serve the request. -/
def isRecoverable : Error → Bool
  | .network _ _ | .offline _ | .contentMismatch _ _ => true
  | .badStatus status _ => 500 ≤ status || status == 304
  | _ => false

/-- Whether the uplink said that the copy at hand is still current. -/
def isNotModified : Error → Bool
  | .badStatus status _ => status == 304
  | _ => false

/-- What a user may try. -/
def suggestion : Error → Option String
  | .notFound _ => some "Check the package name spelling or whether the uplink serves it"
  | .offline _ => some "The uplink failed repeatedly; it will be probed again after fail_timeout"
  | .authConfig _ =>
    some "Set auth.token, auth.token_env or the NPM_TOKEN environment variable"
  | .contentMismatch _ _ => some "Discard the transferred tarball and fetch it again"
  | .network _ _ => some "Check connectivity to the uplink and try again"
  | _ => none

end Error

/-- What comes out of two computations came out of the second. -/
theorem exists_of_bind_eq_ok {ε α β : Type} {x : Except ε α} {f : α → Except ε β} {b : β}
    (h : x >>= f = .ok b) : ∃ a, x = .ok a ∧ f a = .ok b := by
  cases x with
  | error e => cases h
  | ok a => exact ⟨a, rfl, h⟩

theorem exists_of_map_eq_ok {ε α β : Type} {x : Except ε α} {f : α → β} {b : β}
    (h : x.map f = .ok b) : ∃ a, x = .ok a ∧ f a = b := by
  cases x with
  | error e => cases h
  | ok a => exact ⟨a, rfl, Except.ok.inj h⟩

/-- Two computations failed in the first of them, or in the second. -/
theorem error_of_bind {ε α β : Type} {x : Except ε α} {f : α → Except ε β} {e : ε}
    (h : x >>= f = .error e) : x = .error e ∨ ∃ a, x = .ok a ∧ f a = .error e := by
  cases x with
  | error e' =>
    cases h
    exact .inl rfl
  | ok a => exact .inr ⟨a, rfl, h⟩

end RegistryProxy
