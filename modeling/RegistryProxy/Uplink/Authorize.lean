import RegistryProxy.Http.Headers
import RegistryProxy.Log
import RegistryProxy.Uplink.Credential

/-!
# Uplink/Authorize — putting the credential into the headers of a request

A request that already carries an authorisation keeps it.  Otherwise the token is looked up, which
is logged when it fails, and sent after the word for its scheme.
-/

namespace RegistryProxy.Credential

/-- What is logged when a token cannot be had. -/
def misconfigured : LogEntry := ⟨.error, "uplink auth misconfigured"⟩

/-- The token of a credential; failure is logged. -/
def resolveToken (c : Credential) (env : Environment) : Except Error String × Log :=
  match c.token env with
  | .ok token => (.ok token, [])
  | .error e => (.error e, [misconfigured])

/-- The header value for a token. -/
def headerValue (c : Credential) (token : String) : Except Error HeaderValue :=
  match HeaderValue.ofText? (c.scheme.text ++ " " ++ token) with
  | some value => .ok value.secret
  | none => .error (.authConfig "token contains characters not allowed in a header")

/-- What adding an authorisation comes to. -/
structure Authorized where
  /-- Whether it could be done. -/
  result : Except Error Unit
  /-- The headers afterwards. -/
  headers : Headers
  /-- What is logged. -/
  log : Log := []

/-- **Adds the authorisation to headers that have none.** -/
def authorize (headers : Headers) (credential : Option Credential) (env : Environment) :
    Authorized :=
  match credential with
  | none => { result := .ok (), headers }
  | some c =>
    if headers.contains "authorization" then { result := .ok (), headers }
    else
      match c.resolveToken env with
      | (.error e, log) => { result := .error e, headers, log }
      | (.ok token, log) =>
        match c.headerValue token with
        | .error e => { result := .error e, headers, log }
        | .ok value =>
          { result := .ok (), headers := headers.insert "authorization" value, log }

end RegistryProxy.Credential
