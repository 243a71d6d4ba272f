import RegistryProxy.Client.Outbound
import Mathlib.Data.List.Induction

/-!
# Proofs/Client/Layers — which headers go out

The headers of a request come in layers: what the caller sends, what is missing, the way and the
addresses of the request, the authorisation, and on top of all the configured headers.  Each layer
is told by what it does to the values of every name (`values_withForwarded`, `values_authorize`,
`values_withOverrides`), and together they say whose value goes out under each name
(`header_precedence`).
-/

namespace RegistryProxy

variable {c : Client} {u : Uplink} {env : Environment} {accept : String} {h h' out : Headers}
  {peer : Option Peer} {name : HeaderName} {credential : Option Credential}

/-! ## Clients -/

namespace Uplink

/-- **The value that is configured for a name.**  Of several spellings of the name the last in key
order counts. -/
def configured (u : Uplink) (name : HeaderName) : Option HeaderValue :=
  (u.headers.entries.filter fun e => HeaderName.ofText? e.1 = some name).getLast?.bind
    fun e => HeaderValue.ofText? e.2

end Uplink

namespace Client

/-- **A client is as it was made for an uplink**, whatever its breaker has counted since. -/
def MadeFor (c : Client) (u : Uplink) (env : Environment) : Prop :=
  ∃ made, ofUplink u env = .ok made ∧ c = { made with breaker := c.breaker }

theorem valueOf_eq_ok {text : String} {value : HeaderValue} (h : valueOf text = .ok value) :
    value = plainValue text := by
  rw [valueOf] at h
  split at h
  next hvalue =>
    cases h
    exact HeaderValue.eq_of_ofText? hvalue
  next => cases h

theorem valueOf_eq_error {text : String} {e : Error} (h : valueOf text = .error e) :
    e = invalidValue text := by
  rw [valueOf] at h
  split at h <;> cases h
  rfl

theorem settingValue_eq_ok {field text : String} {value : HeaderValue}
    (h : settingValue field text = .ok value) : HeaderValue.ofText? text = some value := by
  rw [settingValue] at h
  split at h
  next hvalue =>
    cases h
    exact hvalue
  next => cases h

theorem overrideOf_eq_ok {key text : String} {value : HeaderValue}
    (h : overrideOf u key text = .ok (name, value)) :
    HeaderName.ofText? key = some name ∧ HeaderValue.ofText? text = some value := by
  rw [overrideOf] at h
  split at h
  next hname hvalue =>
    cases h
    exact ⟨hname, hvalue⟩
  next => cases h

/-- What is put in for a list of settings: each is a header, and of two with one name the last
stays. -/
theorem values_foldlM_overrideOf {entries : List (String × String)}
    (h : entries.foldlM (fun (h : Headers) e => do
      let (name, value) ← overrideOf u e.1 e.2
      return h.insert name value) ∅ = Except.ok out) :
    (∀ e ∈ entries, (HeaderName.ofText? e.1).isSome ∧ (HeaderValue.ofText? e.2).isSome) ∧
      ∀ name, out.values name =
        ((entries.filter fun e => HeaderName.ofText? e.1 = some name).getLast?.bind
          fun e => HeaderValue.ofText? e.2).toList := by
  induction entries using List.reverseRecOn generalizing out with
  | nil =>
    cases h
    exact ⟨nofun, fun _ => rfl⟩
  | append_singleton entries e ih =>
    rw [List.foldlM_append] at h
    obtain ⟨before, hbefore, h⟩ := exists_of_bind_eq_ok h
    rw [List.foldlM_cons] at h
    obtain ⟨_, h, hnil⟩ := exists_of_bind_eq_ok h
    cases hnil
    obtain ⟨⟨name, value⟩, hoverride, h⟩ := exists_of_bind_eq_ok h
    cases h
    obtain ⟨hname, hvalue⟩ := overrideOf_eq_ok hoverride
    obtain ⟨hall, hvalues⟩ := ih hbefore
    constructor
    · intro e' he'
      rcases List.mem_append.1 he' with he' | he'
      · exact hall e' he'
      · obtain rfl := List.mem_singleton.1 he'
        simp [hname, hvalue]
    · intro name'
      rw [Headers.values_insert, List.filter_append]
      by_cases hsame : name' = name
      · subst hsame
        simp [hname, hvalue]
      · have hother : ¬ HeaderName.ofText? e.1 = some name' := by
          rw [hname]
          exact fun heq => hsame (Option.some.inj heq).symm
        simp [hsame, hother, hvalues]

/-- **What a client has of its uplink.** -/
structure Equipped (c : Client) (u : Uplink) (env : Environment) : Prop where
  /-- It is that of the uplink, -/
  uplink_eq : c.uplink = u
  /-- looks tokens up in the environment, -/
  env_eq : c.env = env
  /-- calls itself what the uplink says, -/
  userAgent_eq : c.userAgent = plainValue ("npm (" ++ u.userAgent ++ ")")
  /-- also on the way, -/
  via_eq : c.via = "1.1 " ++ u.serverId ++ " (Burrow)"
  /-- which can be sent, -/
  via_ok : (HeaderValue.ofText? c.via).isSome
  /-- and puts the configured headers in, -/
  values_overrides : ∀ name, c.overrides.values name = (u.configured name).toList
  /-- every one of them. -/
  configured : ∀ e ∈ u.headers.entries, ∃ name value,
    HeaderName.ofText? e.1 = some name ∧ u.configured name = some value

theorem MadeFor.equipped (hmade : c.MadeFor u env) : c.Equipped u env := by
  obtain ⟨made, hmade, hc⟩ := hmade
  rw [ofUplink] at hmade
  obtain ⟨_, -, hmade⟩ := exists_of_bind_eq_ok hmade
  obtain ⟨userAgent, huserAgent, hmade⟩ := exists_of_bind_eq_ok hmade
  obtain ⟨_, hvia, hmade⟩ := exists_of_bind_eq_ok hmade
  obtain ⟨overrides, hoverrides, hmade⟩ := exists_of_bind_eq_ok hmade
  cases hmade
  rw [hc]
  obtain ⟨hall, hvalues⟩ := values_foldlM_overrideOf hoverrides
  constructor
  · rfl
  · rfl
  · exact HeaderValue.eq_of_ofText? (settingValue_eq_ok huserAgent)
  · rfl
  · exact Option.isSome_of_eq_some (settingValue_eq_ok hvia)
  · exact hvalues
  · intro e he
    obtain ⟨name, hname⟩ := Option.isSome_iff_exists.1 (hall e he).1
    have hmem : e ∈ u.headers.entries.filter fun e => HeaderName.ofText? e.1 = some name := by
      simp [he, hname]
    obtain ⟨last, hlast⟩ := Option.ne_none_iff_exists'.1
      (mt List.getLast?_eq_none_iff.1 (List.ne_nil_of_mem hmem))
    have hvalid := (hall last (List.mem_filter.1 (List.mem_of_getLast? hlast)).1).2
    obtain ⟨value, hvalue⟩ := Option.isSome_iff_exists.1 hvalid
    exact ⟨name, value, hname, by rw [Uplink.configured, hlast, Option.bind_some, hvalue]⟩

/-! ## Layers -/

/-- **Where a request came from**, for the uplink: the address it came from, behind those from
before.  A proxy could mind, so behind one, and without a client, it is what the caller says. -/
def addresses (u : Uplink) (peer : Option Peer) (own : List HeaderValue) : List HeaderValue :=
  match peer, u.route with
  | some p, none => [plainValue ((p.forwardedFor.elim "" (· ++ ", ")) ++ p.address)]
  | _, _ => own

theorem chain_eq (p : Peer) : Peer.chain p = (p.forwardedFor.elim "" (· ++ ", ")) ++ p.address := by
  rw [Peer.chain]
  cases p.forwardedFor with
  | none => exact String.empty_append.symm
  | some previous => rfl

/-- **The addresses of a request** change nothing else. -/
theorem values_withForwarded (hforwarded : c.withForwarded h peer = .ok h') (name : HeaderName) :
    h'.values name =
      if name = "x-forwarded-for" then addresses c.uplink peer (h.values name)
      else h.values name := by
  rw [addresses.eq_def]
  cases peer with
  | none =>
    cases hforwarded
    exact (ite_self _).symm
  | some p =>
    rw [withForwarded] at hforwarded
    cases hroute : c.uplink.route with
    | some _ =>
      rw [hroute] at hforwarded
      cases hforwarded
      exact (ite_self _).symm
    | none =>
      rw [hroute] at hforwarded
      obtain ⟨value, hvalue, hinsert⟩ := exists_of_bind_eq_ok hforwarded
      cases hinsert
      rw [Headers.values_insert, valueOf_eq_ok hvalue, chain_eq]

/-- The way of a request depends on nothing but the way that came in. -/
theorem wayOf_congr (hvia : h.values "via" = h'.values "via") : c.wayOf h = c.wayOf h' := by
  rw [wayOf, wayOf, Headers.get?, Headers.get?, hvia]

theorem exists_of_withDefaults (hdefaults : c.withDefaults accept h peer = .ok h') :
    ∃ way, valueOf (c.wayOf h) = .ok way ∧
      c.withForwarded (((h.insertIfNew "accept" (plainValue accept)).insertIfNew "user-agent"
        c.userAgent).insert "via" way) peer = .ok h' := by
  obtain ⟨way, hway, hforwarded⟩ := exists_of_bind_eq_ok hdefaults
  refine ⟨way, ?_, hforwarded⟩
  rw [← hway]
  exact congrArg _ (wayOf_congr (by simp [Headers.values_insertIfNew]))

/-- **Configured headers** are on top of all others. -/
theorem values_withOverrides (hequipped : c.Equipped u env) (h : Headers) (name : HeaderName) :
    (c.withOverrides h).values name =
      (u.configured name).elim (h.values name) fun value => [value] := by
  rw [withOverrides, Headers.values_foldl_insert, hequipped.values_overrides]
  cases u.configured name <;> rfl

theorem exists_of_requestHeaders (hout : (c.requestHeaders accept h peer).1 = .ok out) :
    ∃ before, c.withDefaults accept h peer = .ok before ∧
      (Credential.authorize before c.uplink.credential c.env).result = .ok () ∧
      out = c.withOverrides (Credential.authorize before c.uplink.credential c.env).headers := by
  rw [requestHeaders] at hout
  split at hout
  next => cases hout
  next before hdefaults =>
    dsimp only at hout
    cases hresult : (Credential.authorize before c.uplink.credential c.env).result with
    | error e =>
      rw [hresult] at hout
      cases hout
    | ok =>
      rw [hresult] at hout
      cases hout
      exact ⟨before, hdefaults, hresult, rfl⟩

end Client

namespace Credential

/-- **What can become of headers** that the authorisation is added to. -/
inductive Authorizes (h : Headers) (credential : Option Credential) (env : Environment) :
    Authorized → Prop
  | kept (needless : credential = none ∨ h.values "authorization" ≠ []) :
    Authorizes h credential env { result := .ok (), headers := h }
  | refused (reason : String) (log : Log) :
    Authorizes h credential env { result := .error (.authConfig reason), headers := h, log }
  | added (c : Credential) (token : String) (missing : h.values "authorization" = [])
    (configured : credential = some c) (found : c.token env = .ok token) :
    Authorizes h credential env {
      result := .ok ()
      headers := h.insert "authorization"
        (Client.plainValue (c.scheme.text ++ " " ++ token)).secret }

/-- A token that cannot be had is a matter of the configuration. -/
theorem token_eq_error {c : Credential} {e : Error} (h : c.token env = .error e) :
    ∃ reason, e = .authConfig reason := by
  rw [token] at h
  split at h
  · cases h
  · dsimp only at h
    split at h <;> cases h
    exact ⟨_, rfl⟩
  · dsimp only at h
    split at h <;> cases h
    exact ⟨_, rfl⟩
  · cases h
    exact ⟨_, rfl⟩

theorem authorizes_authorize (h : Headers) (credential : Option Credential) (env : Environment) :
    Authorizes h credential env (authorize h credential env) := by
  cases credential with
  | none => exact .kept (.inl rfl)
  | some c =>
    rw [authorize]
    split
    next hpresent => exact .kept (.inr (Headers.contains_iff.1 hpresent))
    next hmissing =>
      have hmissing : h.values "authorization" = [] := by
        simpa [Headers.contains_iff] using hmissing
      cases htoken : c.token env with
      | error e =>
        obtain ⟨reason, rfl⟩ := token_eq_error htoken
        rw [resolveToken, htoken]
        exact .refused ..
      | ok token =>
        rw [resolveToken, htoken]
        dsimp only
        rw [headerValue]
        split
        next hvalue =>
          split at hvalue
          next => cases hvalue
          next =>
            cases hvalue
            exact .refused ..
        next value hvalue =>
          split at hvalue
          next hvalue' =>
            cases hvalue
            rw [HeaderValue.eq_of_ofText? hvalue']
            exact .added c token hmissing rfl htoken
          next => cases hvalue

/-- **What goes out as the authorisation** of a caller that sends none. -/
def Supplied (credential : Option Credential) (env : Environment)
    (values : List HeaderValue) : Prop :=
  match credential with
  | none => values = []
  | some c => ∃ token, c.token env = .ok token ∧
    values = [(Client.plainValue (c.scheme.text ++ " " ++ token)).secret]

/-- **The authorisation** is added where there is none, and all else is left alone. -/
theorem values_authorize (hok : (authorize h credential env).result = .ok ()) :
    (∀ name, name ≠ "authorization" →
      (authorize h credential env).headers.values name = h.values name) ∧
    if h.values "authorization" = [] then
      Supplied credential env ((authorize h credential env).headers.values "authorization")
    else
      (authorize h credential env).headers.values "authorization" =
        h.values "authorization" := by
  have hcases := authorizes_authorize h credential env
  generalize authorize h credential env = a at hok hcases ⊢
  cases hcases with
  | kept needless =>
    refine ⟨fun _ _ => rfl, ?_⟩
    split
    · next hmissing =>
      rcases needless with rfl | hpresent
      · exact hmissing
      · exact absurd hmissing hpresent
    · rfl
  | refused => cases hok
  | added c token missing configured found =>
    refine ⟨fun name hname => (Headers.values_insert ..).trans (if_neg hname), ?_⟩
    rw [if_pos missing, configured, Supplied]
    exact ⟨token, found, (Headers.values_insert ..).trans (if_pos rfl)⟩

/-- **An authorisation that cannot be added leaves the headers as they were.** -/
theorem headers_of_refused {e : Error} (herror : (authorize h credential env).result = .error e) :
    (authorize h credential env).headers = h := by
  have hcases := authorizes_authorize h credential env
  generalize authorize h credential env = a at herror hcases ⊢
  cases hcases with
  | kept | refused => rfl
  | added => cases herror

end Credential

/-! ## All layers -/

namespace Client

/-- **Headers that cannot be made** have a value that cannot be sent, or no authorisation. -/
theorem requestHeaders_eq_error {e : Error}
    (herror : (c.requestHeaders accept h peer).1 = .error e) :
    (∃ text, e = invalidValue text) ∨ ∃ reason, e = .authConfig reason := by
  rw [requestHeaders] at herror
  split at herror
  next hdefaults =>
    cases herror
    refine .inl ?_
    rcases error_of_bind hdefaults with hway | ⟨way, -, hforwarded⟩
    · exact ⟨_, valueOf_eq_error hway⟩
    · rw [withForwarded.eq_def] at hforwarded
      split at hforwarded
      · cases hforwarded
      · split at hforwarded
        · cases hforwarded
        · rcases error_of_bind hforwarded with hvalue | ⟨value, -, hinsert⟩
          · exact ⟨_, valueOf_eq_error hvalue⟩
          · cases hinsert
  next before hdefaults =>
    refine .inr ?_
    dsimp only at herror
    have hcases := Credential.authorizes_authorize before c.uplink.credential c.env
    generalize Credential.authorize before c.uplink.credential c.env = a at herror hcases
    cases hcases with
    | kept | added => cases herror
    | refused reason =>
      cases herror
      exact ⟨reason, rfl⟩

/-- **Whose value goes out under each name.** -/
structure Precedence (u : Uplink) (env : Environment) (accept : String) (h : Headers)
    (peer : Option Peer) (out : Headers) : Prop where
  /-- A configured header goes out alone. -/
  configured : ∀ e ∈ u.headers.entries, ∃ name value, HeaderName.ofText? e.1 = some name ∧
    u.configured name = some value ∧ out.values name = [value]
  /-- What the caller accepts, or else the type of what is fetched. -/
  accept_eq : u.configured "accept" = none → out.values "accept" =
    if h.values "accept" = [] then [plainValue accept] else h.values "accept"
  /-- What the caller calls itself, or else what the uplink says. -/
  userAgent_eq : u.configured "user-agent" = none → out.values "user-agent" =
    if h.values "user-agent" = [] then [plainValue ("npm (" ++ u.userAgent ++ ")")]
    else h.values "user-agent"
  /-- The authorisation of the caller, or else that of the uplink. -/
  authorization_eq : u.configured "authorization" = none →
    if h.values "authorization" = [] then
      Credential.Supplied u.credential env (out.values "authorization")
    else out.values "authorization" = h.values "authorization"
  /-- The addresses of the request. -/
  addresses_eq : u.configured "x-forwarded-for" = none →
    out.values "x-forwarded-for" = addresses u peer (h.values "x-forwarded-for")
  /-- All other names have what the caller sends, but for the way of the request. -/
  others_eq : ∀ name, u.configured name = none →
    name ∉ ["accept", "user-agent", "authorization", "x-forwarded-for", "via"] →
    out.values name = h.values name

/-- **What the layers below the configured headers come to.** -/
theorem values_withDefaults (hdefaults : c.withDefaults accept h peer = .ok h')
    (hname : name ≠ "via") : h'.values name =
      if name = "x-forwarded-for" then addresses c.uplink peer (h.values name)
      else if name = "accept" ∧ h.values name = [] then [plainValue accept]
      else if name = "user-agent" ∧ h.values name = [] then [c.userAgent]
      else h.values name := by
  obtain ⟨way, -, hforwarded⟩ := exists_of_withDefaults hdefaults
  have hbelow : (((h.insertIfNew "accept" (plainValue accept)).insertIfNew "user-agent"
      c.userAgent).insert "via" way).values name =
        if name = "accept" ∧ h.values name = [] then [plainValue accept]
        else if name = "user-agent" ∧ h.values name = [] then [c.userAgent]
        else h.values name := by
    rw [Headers.values_insert, if_neg hname]
    simp only [Headers.values_insertIfNew]
    by_cases haccept : name = "accept"
    · subst haccept
      simp
    · by_cases huser : name = "user-agent"
      · subst huser
        simp
      · simp [haccept, huser]
  rw [values_withForwarded hforwarded, hbelow]
  split
  · next hforwarded =>
    subst hforwarded
    simp
  · rfl

/-- **A name that is not configured** has what the layers below give it. -/
theorem values_requestHeaders (hequipped : c.Equipped u env)
    (hout : (c.requestHeaders accept h peer).1 = .ok out) (hplain : u.configured name = none) :
    ∃ before, c.withDefaults accept h peer = .ok before ∧
      (name ≠ "authorization" → out.values name = before.values name) ∧
      (name = "authorization" →
        if before.values name = [] then Credential.Supplied u.credential env (out.values name)
        else out.values name = before.values name) := by
  obtain ⟨before, hdefaults, hok, rfl⟩ := exists_of_requestHeaders hout
  obtain ⟨hothers, hauthorization⟩ := Credential.values_authorize hok
  rw [values_withOverrides hequipped, hplain, Option.elim_none]
  refine ⟨before, hdefaults, hothers name, ?_⟩
  rintro rfl
  rwa [hequipped.uplink_eq, hequipped.env_eq] at hauthorization ⊢

/-- **Configured headers win over all others, what the caller sends over what is computed, and
nothing else is touched.**  The authorisation is the one layer that may fail with the headers in
hand, and then it leaves them as they were. -/
theorem header_precedence (hmade : c.MadeFor u env) :
    (∀ out, (c.requestHeaders accept h peer).1 = .ok out → Precedence u env accept h peer out) ∧
      ∀ headers credential env e,
        (Credential.authorize headers credential env).result = .error e →
        (Credential.authorize headers credential env).headers = headers := by
  refine ⟨fun out hout => ?_, fun _ _ _ _ => Credential.headers_of_refused⟩
  have hequipped := hmade.equipped
  constructor
  · intro e he
    obtain ⟨name, value, hname, hvalue⟩ := hequipped.configured e he
    obtain ⟨before, -, -, rfl⟩ := exists_of_requestHeaders hout
    refine ⟨name, value, hname, hvalue, ?_⟩
    rw [values_withOverrides hequipped, hvalue, Option.elim_some]
  · intro hplain
    obtain ⟨before, hdefaults, hvalues, -⟩ := values_requestHeaders hequipped hout hplain
    rw [hvalues (by decide), values_withDefaults hdefaults (by decide)]
    simp
  · intro hplain
    obtain ⟨before, hdefaults, hvalues, -⟩ := values_requestHeaders hequipped hout hplain
    rw [hvalues (by decide), values_withDefaults hdefaults (by decide), hequipped.userAgent_eq]
    simp
  · intro hplain
    obtain ⟨before, hdefaults, -, hvalues⟩ := values_requestHeaders hequipped hout hplain
    have hbefore : before.values "authorization" = h.values "authorization" := by
      rw [values_withDefaults hdefaults (by decide)]
      simp
    rw [← hbefore]
    exact hvalues rfl
  · intro hplain
    obtain ⟨before, hdefaults, hvalues, -⟩ := values_requestHeaders hequipped hout hplain
    rw [hvalues (by decide), values_withDefaults hdefaults (by decide), hequipped.uplink_eq,
      if_pos rfl]
  · intro name hplain hother
    simp only [List.mem_cons, List.not_mem_nil, or_false, not_or] at hother
    obtain ⟨haccept, huser, hauthorization, haddresses, hvia⟩ := hother
    obtain ⟨before, hdefaults, hvalues, -⟩ := values_requestHeaders hequipped hout hplain
    rw [hvalues hauthorization, values_withDefaults hdefaults hvia]
    simp [haccept, huser, haddresses]

/-- An uplink with a token, and with two spellings of one configured header. -/
def guarded : Uplink where
  name := "r"
  url := { scheme := "http", host := some (.domain "r") }
  baseUrl := "http://r"
  ca := none
  credential := some { scheme := .bearer, source := .inline "t" }
  headers := .ofList [("ACCEPT", "a"), ("Accept", "b")]
  maxage := .ofSeconds 120
  timeout := .ofSeconds 30
  maxFails := 2
  failTimeout := .ofSeconds 300
  strictSsl := true
  proxy := none
  bypass := []
  userAgent := "a"
  serverId := "a"

/-- The client of it. -/
def guardedClient : Client where
  uplink := guarded
  userAgent := plainValue "npm (a)"
  via := "1.1 a (Burrow)"
  overrides := ⟨[("accept", plainValue "b")]⟩
  env := fun _ => none
  breaker := { host := "r", maxFails := 2, failTimeout := .ofSeconds 300 }

theorem guardedClient_madeFor : guardedClient.MadeFor guarded fun _ => none :=
  ⟨guardedClient, rfl, rfl⟩

/-- The second spelling wins over the first and over the caller; the caller has no authorisation,
and two values of one more name. -/
theorem header_precedence_spellings :
    guardedClient.MadeFor guarded (fun _ => none) ∧
      ∃ out, (guardedClient.requestHeaders documentType
        ⟨[("x-a", plainValue "1"), ("accept", plainValue "c"), ("x-a", plainValue "2")]⟩
        (some { address := "10.0.0.7", forwardedFor := some "10.0.0.1" })).1 = .ok out ∧
      out.values "accept" = [plainValue "b"] ∧
      out.values "authorization" = [(plainValue "Bearer t").secret] ∧
      out.values "x-forwarded-for" = [plainValue "10.0.0.1, 10.0.0.7"] ∧
      out.values "x-a" = [plainValue "1", plainValue "2"] := by
  obtain ⟨out, hout⟩ : ∃ out, (guardedClient.requestHeaders documentType
      ⟨[("x-a", plainValue "1"), ("accept", plainValue "c"), ("x-a", plainValue "2")]⟩
      (some { address := "10.0.0.7", forwardedFor := some "10.0.0.1" })).1 = .ok out := ⟨_, rfl⟩
  have hprecedence := (header_precedence guardedClient_madeFor).1 out hout
  obtain ⟨name, value, hname, hvalue, haccept⟩ :=
    hprecedence.configured ("Accept", "b") (by decide +kernel)
  obtain rfl : name = "accept" := Option.some.inj (hname.symm.trans (by decide +kernel))
  obtain rfl : value = plainValue "b" := Option.some.inj (hvalue.symm.trans (by decide +kernel))
  obtain ⟨token, htoken, hauthorization⟩ := hprecedence.authorization_eq (by decide +kernel)
  cases htoken
  refine ⟨guardedClient_madeFor, out, hout, haccept, hauthorization, ?_, ?_⟩
  · exact (hprecedence.addresses_eq (by decide +kernel)).trans (by decide +kernel)
  · exact (hprecedence.others_eq "x-a" (by decide +kernel) (by decide)).trans (by decide +kernel)

end Client

end RegistryProxy
