import RegistryProxy.Error
import RegistryProxy.Json.Fields
import RegistryProxy.Text.Blank

/-!
# Uplink/Credential — how requests to an uplink are authorised

A `Credential` is a scheme and the place its token comes from.  `token` looks the token up in an
environment.
-/

namespace RegistryProxy

/-- The schemes of authorisation. -/
inductive AuthScheme where
  /-- A token that stands for its bearer. -/
  | bearer
  /-- A name with its password. -/
  | basic
  deriving DecidableEq

namespace AuthScheme

/-- The word that opens the header. -/
def text : AuthScheme → String
  | .bearer => "Bearer"
  | .basic => "Basic"

/-- The scheme a text names, in any case. -/
def ofText? (s : String) : Option AuthScheme :=
  if Text.lower s = "bearer" then some .bearer
  else if Text.lower s = "basic" then some .basic
  else none

/-- The reason why a text names no scheme. -/
def notAllowed (s : String) : String := "Auth type '" ++ s ++ "' not allowed"

/-- The scheme a text names, or the error that quotes the text in lower case. -/
def parse (s : String) : Except Error AuthScheme :=
  match ofText? s with
  | some scheme => .ok scheme
  | none => .error (.configValidation "auth.type" (notAllowed (Text.lower s)))

end AuthScheme

/-- Where a token comes from. -/
inductive TokenSource where
  /-- The setting itself. -/
  | inline (token : String)
  /-- A variable of the environment. -/
  | env (name : String)
  /-- The variable that is used when none is named. -/
  | defaultEnv
  /-- Nowhere. -/
  | disabled
  deriving DecidableEq

/-- How requests to an uplink are authorised. -/
structure Credential where
  /-- The scheme. -/
  scheme : AuthScheme
  /-- Where the token comes from. -/
  source : TokenSource
  deriving DecidableEq

/-- The variables of the environment. -/
abbrev Environment := String → Option String

namespace Credential

/-- The variable that is looked at when none is named. -/
def defaultVariable : String := "NPM_TOKEN"

/-- The error for a variable that is not set. -/
def notSet (name : String) : Error :=
  .authConfig ("token is required, but $" ++ name ++ " is not set")

/-- **The token of a credential.** -/
def token (c : Credential) (env : Environment) : Except Error String :=
  let lookup (name : String) : Except Error String :=
    match env name with
    | some token => .ok token
    | none => .error (notSet name)
  match c.source with
  | .inline token => .ok token
  | .env name => lookup name
  | .defaultEnv => lookup defaultVariable
  | .disabled => .error (.authConfig "token is required, but token_env is disabled")

end Credential

end RegistryProxy
