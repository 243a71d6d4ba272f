import RegistryProxy.Uplink.Bypass
import RegistryProxy.Uplink.Credential
import RegistryProxy.Duration
import RegistryProxy.Url.Basic

/-!
# Uplink/Basic — a registry that requests are passed on to

An `Uplink` is what its settings come to, with a value for everything.  `Uplink.route` is the proxy
that its requests go through.
-/

namespace RegistryProxy

/-- A registry that requests are passed on to. -/
structure Uplink where
  /-- The name it is configured under. -/
  name : String
  /-- Where it is. -/
  url : Url
  /-- Its address as it was configured, without slashes at the end. -/
  baseUrl : String
  /-- A certificate to trust. -/
  ca : Option String
  /-- How requests are authorised. -/
  credential : Option Credential
  /-- Headers for every request. -/
  headers : Dict String
  /-- How long a fetched document stays fresh. -/
  maxage : Duration
  /-- How long a request may take. -/
  timeout : Duration
  /-- How many failures in a row take it offline. -/
  maxFails : Nat
  /-- How long it is left alone when it is offline. -/
  failTimeout : Duration
  /-- Whether certificates are checked. -/
  strictSsl : Bool
  /-- The proxy, unless the host is reached without. -/
  proxy : Option String
  /-- The hosts that are reached without a proxy. -/
  bypass : List String
  /-- What the proxy calls itself as a client. -/
  userAgent : String
  /-- What the proxy calls itself on the way. -/
  serverId : String

namespace Uplink

/-- The host without its number. -/
def hostname (u : Uplink) : String := (u.url.host.map Url.Host.text).getD ""

/-- The host with its number, for the log and for errors. -/
def host (u : Uplink) : String := if u.url.host.isSome then u.url.authority else u.baseUrl

/-- Whether the connection is encrypted. -/
def isEncrypted (u : Uplink) : Bool := u.url.scheme == "https"

/-- **The proxy that requests go through.** -/
def route (u : Uplink) : Option String := if bypasses u.hostname u.bypass then none else u.proxy

end Uplink

end RegistryProxy
