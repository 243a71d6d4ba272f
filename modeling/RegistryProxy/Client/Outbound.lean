import RegistryProxy.Client.Basic
import RegistryProxy.Uplink.Authorize

/-!
# Client/Outbound — the headers of a request to an uplink

The headers of the request that came in are passed on.  What is missing is added, the way of the
request gets one more station, and the configured headers win over everything.
-/

namespace RegistryProxy

/-- On whose behalf a request is made. -/
structure Peer where
  /-- The address the request came from. -/
  address : String
  /-- The addresses it came from before. -/
  forwardedFor : Option String := none
  deriving DecidableEq

namespace Client

/-- The error for a value that cannot be sent. -/
def invalidValue (text : String) : Error :=
  .internal ("'" ++ text ++ "' is not a valid header value") .unknown

/-- The value with a text. -/
def valueOf (text : String) : Except Error HeaderValue :=
  match HeaderValue.ofText? text with
  | some value => .ok value
  | none => .error (invalidValue text)

/-- The value of a text that is known to be plain. -/
def plainValue (text : String) : HeaderValue := { bytes := Utf8.encode text }

/-- The way of a request with one more station. -/
def wayOf (c : Client) (h : Headers) : String :=
  match h.get? "via" >>= HeaderValue.text? with
  | some incoming => incoming ++ ", " ++ c.via
  | none => c.via

/-- The addresses a request came from with one more. -/
def Peer.chain (p : Peer) : String :=
  match p.forwardedFor with
  | some previous => previous ++ ", " ++ p.address
  | none => p.address

/-- Tells where a request came from, unless a proxy could mind. -/
def withForwarded (c : Client) (h : Headers) : Option Peer → Except Error Headers
  | none => .ok h
  | some peer =>
    if c.uplink.route.isSome then .ok h
    else do
      let value ← valueOf (Peer.chain peer)
      return h.insert "x-forwarded-for" value

/-- The headers up to the authorisation. -/
def withDefaults (c : Client) (accept : String) (h : Headers) (peer : Option Peer) :
    Except Error Headers := do
  let h := h.insertIfNew "accept" (plainValue accept)
  let h := h.insertIfNew "user-agent" c.userAgent
  let way ← valueOf (c.wayOf h)
  c.withForwarded (h.insert "via" way) peer

/-- Puts the configured headers in the place of all others with their names. -/
def withOverrides (c : Client) (h : Headers) : Headers :=
  c.overrides.entries.foldl (fun h e => h.insert e.1 e.2) h

/-- **The headers of a request**, and what is logged on the way. -/
def requestHeaders (c : Client) (accept : String) (h : Headers) (peer : Option Peer) :
    Except Error Headers × Log :=
  match c.withDefaults accept h peer with
  | .error e => (.error e, [])
  | .ok h =>
    let a := Credential.authorize h c.uplink.credential c.env
    (a.result.map fun _ => c.withOverrides a.headers, a.log)

/-- The type of documents. -/
def documentType : String := "application/json"

/-- The type of tarballs. -/
def tarballType : String := "application/octet-stream"

/-- The error for a request that got no answer. -/
def transportError (url : String) : Failure → Error
  | .timedOut => .network ("request to " ++ url ++ " timed out") (.outside none)
  | .broken => .network ("request to " ++ url ++ " failed") (.outside none)

end Client

end RegistryProxy
