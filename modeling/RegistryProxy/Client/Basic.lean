import RegistryProxy.Certificate.Form
import RegistryProxy.Client.Network
import RegistryProxy.Client.Proxy
import RegistryProxy.Uplink.Basic
import RegistryProxy.Uplink.Breaker
import RegistryProxy.Uplink.Freshness

/-!
# Client/Basic — who talks to an uplink

A `Client` is an uplink with everything that goes into requests made ready, and its breaker.  A
`Client.World` is a client at work: the network, the time and the log around it.
-/

namespace RegistryProxy

/-- Who talks to an uplink. -/
structure Client where
  /-- The uplink. -/
  uplink : Uplink
  /-- The user agent of requests that have none. -/
  userAgent : HeaderValue
  /-- The station that is added to the way of a request. -/
  via : String
  /-- The configured headers. -/
  overrides : Headers
  /-- The variables that tokens are looked up in. -/
  env : Environment
  /-- The breaker. -/
  breaker : Breaker

namespace Client

/-- The reason for a value that cannot be sent. -/
def notAValue : String := "not a valid header value"

/-- The reason for a header that cannot be sent. -/
def notAHeader : String := "not a valid header"

/-- Checks what a connection needs: the certificate, then the proxy. -/
def checkConnection (u : Uplink) : Except Error Unit :=
  if u.ca.any fun ca => !Certificate.isValid ca then
    .error (.configValidation ("uplinks." ++ u.name ++ ".ca") "not a certificate")
  else if u.route.any fun proxy => !Proxy.isValid proxy then
    .error (.configValidation ("uplinks." ++ u.name ++ ".proxy") "not a proxy")
  else .ok ()

/-- The value with a text; `field` is the setting to blame. -/
def settingValue (field text : String) : Except Error HeaderValue :=
  match HeaderValue.ofText? text with
  | some value => .ok value
  | none => .error (.configValidation field notAValue)

/-- A configured header. -/
def overrideOf (u : Uplink) (name value : String) : Except Error (HeaderName × HeaderValue) :=
  match HeaderName.ofText? name, HeaderValue.ofText? value with
  | some n, some v => .ok (n, v)
  | _, _ => .error (.configValidation ("uplinks." ++ u.name ++ ".headers." ++ name) notAHeader)

/-- The configured headers; of two with one name the last in key order stays. -/
def overridesOf (u : Uplink) : Except Error Headers :=
  u.headers.entries.foldlM (fun h e => do
    let (name, value) ← overrideOf u e.1 e.2
    return h.insert name value) ∅

/-- **The client for an uplink**, or the first setting at fault. -/
def ofUplink (u : Uplink) (env : Environment) : Except Error Client := do
  checkConnection u
  let userAgent ← settingValue "user_agent" ("npm (" ++ u.userAgent ++ ")")
  let via := "1.1 " ++ u.serverId ++ " (Burrow)"
  let _ ← settingValue "server_id" via
  let overrides ← overridesOf u
  return {
    uplink := u, userAgent, via, overrides, env
    breaker := { host := u.host, maxFails := u.maxFails, failTimeout := u.failTimeout } }

/-- What the uplink counts as fresh. -/
def freshness (c : Client) : Freshness := { uplink := c.uplink.name, maxage := c.uplink.maxage }

/-- A client at work. -/
structure World where
  /-- The client. -/
  client : Client
  /-- The network. -/
  network : Network
  /-- The time, in nanoseconds. -/
  clock : Nat := 0
  /-- What was logged, oldest first. -/
  log : Log := []

namespace World

/-- Whether the breaker lets a request through now. -/
def isAvailable (w : World) : Bool := w.client.breaker.isAvailableAt w.clock

/-- The error for a request that the breaker refuses. -/
def offline (w : World) : Error := .offline w.client.breaker.host

/-- Counts an outcome now. -/
def record (w : World) (success : Bool) : World :=
  let (breaker, log) := w.client.breaker.record success w.clock
  { w with client := { w.client with breaker }, log := w.log ++ log }

/-- Sends a request. -/
def send (w : World) (r : Request) : Exchange × World :=
  let (x, network) := w.network.send r
  (x, { w with network })

/-- Adds to the log. -/
def note (w : World) (log : Log) : World := { w with log := w.log ++ log }

end World

end Client

end RegistryProxy
