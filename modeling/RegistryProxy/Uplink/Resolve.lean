import RegistryProxy.Log
import RegistryProxy.Uplink.Basic
import RegistryProxy.Uplink.Settings
import RegistryProxy.Url.Parser

/-!
# Uplink/Resolve — what settings come to

The settings of an uplink win over those for all uplinks, and those over the defaults; the list of
hosts to reach without a proxy falls back on its own.  The first setting at fault is told: the
address, then the intervals, then the authorisation.
-/

namespace RegistryProxy.Uplink

/-! ## Defaults -/

/-- How long a fetched document stays fresh. -/
def defaultMaxage : Duration := .ofSeconds (2 * 60)

/-- How long a request may take. -/
def defaultTimeout : Duration := .ofSeconds 30

/-- How many failures in a row take an uplink offline. -/
def defaultMaxFails : Nat := 2

/-- How long an offline uplink is left alone. -/
def defaultFailTimeout : Duration := .ofSeconds (5 * 60)

/-- What the proxy calls itself as a client. -/
def defaultUserAgent : String := "burrow/0.1.0"

/-- What the proxy calls itself on the way. -/
def defaultServerId : String := "burrow"

/-! ## Parts -/

/-- The name of a setting of an uplink. -/
def fieldOf (name key : String) : String := "uplinks." ++ name ++ "." ++ key

/-- The error for an uplink that is not configured. -/
def notConfigured (name : String) : Error := .configValidation ("uplinks." ++ name) "no such uplink"

/-- Reads the address; its scheme has to be one of the web. -/
def resolveUrl (name url : String) : Except Error Url :=
  match Url.parse url with
  | .error e => .error (.configValidation (fieldOf name "url") e.message)
  | .ok u =>
    if u.scheme = "http" ∨ u.scheme = "https" then .ok u
    else
      .error (.configValidation (fieldOf name "url") ("unsupported scheme '" ++ u.scheme ++ "'"))

/-- An address without slashes at its end. -/
def withoutSlashes (url : String) : String :=
  String.ofList (url.toList.reverse.dropWhile (· == '/')).reverse

/-- The span of a setting, or the default. -/
def intervalOr (missing : Duration) (field : String) :
    Option Interval.Setting → Except Error Duration
  | none => .ok missing
  | some s => s.toDuration field

/-- What is logged for a number of seconds that looks like milliseconds. -/
def suspiciousTimeout : Option Interval.Setting → Log
  | some (.seconds x) =>
    if x.isAtLeast 1000 then
      [.warning ("Too big timeout value: " ++ x.display ++
        "; timeout is now in seconds, use \"" ++ x.display ++ "ms\" for milliseconds")]
    else []
  | _ => []

/-- The source of a token: the token itself, then the variable. -/
def tokenSource (a : AuthSettings) : TokenSource :=
  match a.token, a.tokenEnv with
  | some token, _ => .inline token
  | none, some (.name key) => .env key
  | none, some (.flag false) => .disabled
  | none, some (.flag true) | none, none => .defaultEnv

/-- How requests are authorised; without a scheme by name and password. -/
def resolveAuth (name : String) (a : AuthSettings) : Except Error Credential :=
  match a.scheme with
  | none => .ok { scheme := .basic, source := tokenSource a }
  | some s =>
    match AuthScheme.ofText? s with
    | some scheme => .ok { scheme, source := tokenSource a }
    | none => .error (.configValidation (fieldOf name "auth.type") (AuthScheme.notAllowed s))

/-- The proxy for the scheme of an address. -/
def proxyFor (url : Url) (s : UplinkSettings) (g : GlobalSettings) : Option String :=
  if url.scheme = "https" then s.httpsProxy.or g.httpsProxy else s.httpProxy.or g.httpProxy

/-- The hosts that are reached without a proxy. -/
def bypassFor (s : UplinkSettings) (g : GlobalSettings) : List String :=
  ((s.noProxy.or g.noProxy).map Bypass.entries).getD []

/-- The intervals and the authorisation of an uplink. -/
def resolveRest (name : String) (url : Url) (timeout : Duration) (s : UplinkSettings)
    (g : GlobalSettings) : Except Error Uplink := do
  let maxage ← intervalOr defaultMaxage (fieldOf name "maxage") s.maxage
  let failTimeout ← intervalOr defaultFailTimeout (fieldOf name "fail_timeout") s.failTimeout
  let credential ← s.auth.mapM (resolveAuth name)
  return {
    name, url, credential, maxage, timeout, failTimeout
    baseUrl := withoutSlashes s.url
    ca := s.ca
    headers := s.headers
    maxFails := s.maxFails.getD defaultMaxFails
    strictSsl := s.strictSsl.getD true
    proxy := proxyFor url s g
    bypass := bypassFor s g
    userAgent := g.userAgent.getD defaultUserAgent
    serverId := g.serverId.getD defaultServerId }

/-- **What the settings of an uplink come to**, and what is logged on the way. -/
def resolve (name : String) (s : UplinkSettings) (g : GlobalSettings) : Except Error Uplink × Log :=
  match resolveUrl name s.url with
  | .error e => (.error e, [])
  | .ok url =>
    match intervalOr defaultTimeout (fieldOf name "timeout") s.timeout with
    | .error e => (.error e, [])
    | .ok timeout => (resolveRest name url timeout s g, suspiciousTimeout s.timeout)

/-- What the settings of all uplinks come to, in name order, up to the first that is at fault. -/
def resolveAll (g : GlobalSettings) :
    List (String × UplinkSettings) → Except Error (List Uplink) × Log
  | [] => (.ok [], [])
  | (name, s) :: rest =>
    match resolve name s g with
    | (.error e, log) => (.error e, log)
    | (.ok u, log) =>
      let (us, more) := resolveAll g rest
      (us.map (u :: ·), log ++ more)

end Uplink

/-- All uplinks, in name order. -/
def Settings.uplinkList (s : Settings) : Except Error (List Uplink) × Log :=
  Uplink.resolveAll s.global s.uplinks.entries

/-- The uplink with a name. -/
def Settings.uplink (s : Settings) (name : String) : Except Error Uplink × Log :=
  match s.uplinks.find? name with
  | none => (.error (Uplink.notConfigured name), [])
  | some settings => Uplink.resolve name settings s.global

end RegistryProxy
