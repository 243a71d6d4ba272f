import RegistryProxy.Interval
import RegistryProxy.Uplink.Bypass

/-!
# Uplink/Settings — settings as they are configured

`UplinkSettings` belongs to one uplink and `GlobalSettings` to all of them.  Both are read from
documents; what is not set is absent from the document that they give back.
-/

namespace RegistryProxy

/-- The variable that holds a token, as a setting spells it. -/
inductive TokenVariable where
  /-- The default variable for true, none for false. -/
  | flag (value : Bool)
  /-- The name of a variable. -/
  | name (value : String)
  deriving DecidableEq

namespace TokenVariable

/-- Reads a setting: a truth value, or a text. -/
def ofTree? (t : Json.Tree) : Option TokenVariable :=
  match t.truth? with
  | some b => some (.flag b)
  | none => t.text?.map .name

/-- The setting as a document. -/
def document : TokenVariable → Json
  | .flag b => .bool b
  | .name s => .string s

end TokenVariable

/-- The authorisation of one uplink. -/
structure AuthSettings where
  /-- The name of the scheme. -/
  scheme : Option String := none
  /-- The token itself. -/
  token : Option String := none
  /-- The variable that holds the token. -/
  tokenEnv : Option TokenVariable := none
  deriving DecidableEq

/-- The settings of one uplink. -/
structure UplinkSettings where
  /-- Where the registry is. -/
  url : String
  /-- A certificate to trust. -/
  ca : Option String := none
  /-- How long a request may take. -/
  timeout : Option Interval.Setting := none
  /-- How long a fetched document stays fresh. -/
  maxage : Option Interval.Setting := none
  /-- How many failures in a row take the uplink offline. -/
  maxFails : Option Nat := none
  /-- How long an offline uplink is left alone. -/
  failTimeout : Option Interval.Setting := none
  /-- Whether certificates are checked. -/
  strictSsl : Option Bool := none
  /-- Headers for every request. -/
  headers : Dict String := ∅
  /-- The authorisation. -/
  auth : Option AuthSettings := none
  /-- The proxy for plain connections. -/
  httpProxy : Option String := none
  /-- The proxy for encrypted connections. -/
  httpsProxy : Option String := none
  /-- The hosts that are reached without a proxy. -/
  noProxy : Option Bypass := none
  deriving DecidableEq

/-- The settings that hold for all uplinks. -/
structure GlobalSettings where
  /-- What the proxy calls itself as a client. -/
  userAgent : Option String := none
  /-- What the proxy calls itself on the way. -/
  serverId : Option String := none
  /-- The proxy for plain connections. -/
  httpProxy : Option String := none
  /-- The proxy for encrypted connections. -/
  httpsProxy : Option String := none
  /-- The hosts that are reached without a proxy. -/
  noProxy : Option Bypass := none
  deriving DecidableEq

/-- All settings. -/
structure Settings where
  /-- What holds for all uplinks. -/
  global : GlobalSettings := {}
  /-- The uplinks by name. -/
  uplinks : Dict UplinkSettings := ∅
  deriving DecidableEq

/-- The member that is there when the value is. -/
def settingOf {α : Type} (name : String) (f : α → Json) : Option α → List (String × Json)
  | none => []
  | some a => [(name, f a)]

namespace AuthSettings

/-- The names of the settings, in the order of their positions. -/
def names : List String := ["type", "token", "token_env"]

/-- Reads the settings. -/
def ofTree? (t : Json.Tree) : Option AuthSettings := do
  let field ← t.fields? names
  let scheme ← Json.Tree.optional Json.Tree.text? (field "type")
  let token ← Json.Tree.optional Json.Tree.text? (field "token")
  let tokenEnv ← Json.Tree.optional TokenVariable.ofTree? (field "token_env")
  return { scheme, token, tokenEnv }

/-- The settings as a document. -/
def document (a : AuthSettings) : Json :=
  .ofMembers (settingOf "type" .string a.scheme ++ settingOf "token" .string a.token ++
    settingOf "token_env" TokenVariable.document a.tokenEnv)

end AuthSettings

namespace UplinkSettings

/-- The names of the settings, in the order of their positions. -/
def names : List String :=
  ["url", "ca", "timeout", "maxage", "max_fails", "fail_timeout", "strict_ssl", "headers", "auth",
    "http_proxy", "https_proxy", "no_proxy"]

/-- A count of 32 bits. -/
def count? (t : Json.Tree) : Option Nat := (t.integer? 0 0xffffffff).map Int.toNat

/-- **Reads the settings of an uplink.** -/
def ofTree? (t : Json.Tree) : Option UplinkSettings := do
  let field ← t.fields? names
  let url ← Json.Tree.required Json.Tree.text? (field "url")
  let ca ← Json.Tree.optional Json.Tree.text? (field "ca")
  let timeout ← Json.Tree.optional Interval.Setting.ofTree? (field "timeout")
  let maxage ← Json.Tree.optional Interval.Setting.ofTree? (field "maxage")
  let maxFails ← Json.Tree.optional count? (field "max_fails")
  let failTimeout ← Json.Tree.optional Interval.Setting.ofTree? (field "fail_timeout")
  let strictSsl ← Json.Tree.optional Json.Tree.truth? (field "strict_ssl")
  let headers ← Json.Tree.orElse ∅ (Json.Tree.mapOf? Json.Tree.text?) (field "headers")
  let auth ← Json.Tree.optional AuthSettings.ofTree? (field "auth")
  let httpProxy ← Json.Tree.optional Json.Tree.text? (field "http_proxy")
  let httpsProxy ← Json.Tree.optional Json.Tree.text? (field "https_proxy")
  let noProxy ← Json.Tree.optional Bypass.ofTree? (field "no_proxy")
  return {
    url, ca, timeout, maxage, maxFails, failTimeout, strictSsl, headers, auth, httpProxy,
    httpsProxy, noProxy }

/-- The settings as a document. -/
def document (s : UplinkSettings) : Json :=
  .ofMembers ([("url", .string s.url)] ++ settingOf "ca" .string s.ca ++
    settingOf "timeout" Interval.Setting.document s.timeout ++
    settingOf "maxage" Interval.Setting.document s.maxage ++
    settingOf "max_fails" .ofNat s.maxFails ++
    settingOf "fail_timeout" Interval.Setting.document s.failTimeout ++
    settingOf "strict_ssl" .bool s.strictSsl ++
    [("headers", .object (s.headers.mapValues .string).entries)] ++
    settingOf "auth" AuthSettings.document s.auth ++
    settingOf "http_proxy" .string s.httpProxy ++
    settingOf "https_proxy" .string s.httpsProxy ++
    settingOf "no_proxy" Bypass.document s.noProxy)

end UplinkSettings

namespace GlobalSettings

/-- The names of the settings, in the order of their positions. -/
def names : List String := ["user_agent", "server_id", "http_proxy", "https_proxy", "no_proxy"]

/-- The settings from their fields. -/
def ofFields? (field : String → Option Json.Tree) : Option GlobalSettings := do
  let userAgent ← Json.Tree.optional Json.Tree.text? (field "user_agent")
  let serverId ← Json.Tree.optional Json.Tree.text? (field "server_id")
  let httpProxy ← Json.Tree.optional Json.Tree.text? (field "http_proxy")
  let httpsProxy ← Json.Tree.optional Json.Tree.text? (field "https_proxy")
  let noProxy ← Json.Tree.optional Bypass.ofTree? (field "no_proxy")
  return { userAgent, serverId, httpProxy, httpsProxy, noProxy }

/-- Reads the settings. -/
def ofTree? (t : Json.Tree) : Option GlobalSettings := do
  let field ← t.fields? names
  ofFields? field

/-- The members of the settings as a document. -/
def members (g : GlobalSettings) : List (String × Json) :=
  settingOf "user_agent" .string g.userAgent ++ settingOf "server_id" .string g.serverId ++
    settingOf "http_proxy" .string g.httpProxy ++ settingOf "https_proxy" .string g.httpsProxy ++
    settingOf "no_proxy" Bypass.document g.noProxy

end GlobalSettings

namespace Settings

/-- All settings as a document. -/
def document (s : Settings) : Json :=
  .ofMembers (s.global.members ++
    [("uplinks", .object (s.uplinks.mapValues UplinkSettings.document).entries)])

end Settings

end RegistryProxy
