import RegistryProxy.Proofs.Client.Outlook
import RegistryProxy.Proofs.Uplink.Marks

/-!
# Proofs/Client/Revisit — the tag of a document comes back to its uplink

A fetch remembers the tag of the answer, the mark keeps it through all that happens to the package,
and the next fetch asks with it.  The tag is plain text, so it can always be sent
(`conditional_of_text?`); no other header depends on it, so a fetch with it is refused only as one
without it is (`draft_error_of_tag`); and it goes out as it came, unless the configured headers have
an `if-none-match` of their own (`etag_survives`).
-/

namespace RegistryProxy

open Client (World)

variable {c : Client} {u : Uplink} {env : Environment} {accept etag : String} {h h' : Headers}
  {peer : Option Peer} {v : HeaderValue} {e : Error}

/-- Plain text can be sent. -/
theorem HeaderValue.ofText?_of_text? (htext : v.text? = some etag) :
    HeaderValue.ofText? etag = some { bytes := v.bytes } := by
  have hplain : v.bytes.all isPlain = true := by
    rw [text?] at htext
    split at htext
    · assumption
    · cases htext
  have hallowed : v.bytes.all isAllowed = true := by
    rw [List.all_eq_true] at hplain ⊢
    intro b hb
    have hb := hplain b hb
    simp only [isPlain, isAllowed, Bool.or_eq_true, Bool.and_eq_true, decide_eq_true_eq,
      bne_iff_ne] at hb ⊢
    refine hb.imp_left fun hb => ⟨hb.1, ?_⟩
    rintro rfl
    exact absurd hb.2 (by decide)
  rw [ofText?, encode_of_text? htext, ofBytes?, if_pos hallowed]

/-! ## What the other headers depend on -/

/-- Whether an authorisation can be added depends on the one that is there. -/
theorem Credential.result_authorize_congr
    (hauthorization : h.values "authorization" = h'.values "authorization")
    (credential : Option Credential) (env : Environment) :
    (authorize h credential env).result = (authorize h' credential env).result := by
  cases credential with
  | none => rfl
  | some c =>
    have hcontains : h.contains "authorization" = h'.contains "authorization" := by
      rw [Headers.contains, Headers.contains, Headers.get?, Headers.get?, hauthorization]
    rw [authorize, authorize, hcontains]
    split
    · rfl
    · generalize c.resolveToken env = token
      obtain ⟨token, log⟩ := token
      cases token with
      | error e => rfl
      | ok token =>
        dsimp only
        cases c.headerValue token <;> rfl

namespace Client

theorem withForwarded_error_congr (hforwarded : c.withForwarded h peer = .error e) :
    c.withForwarded h' peer = .error e := by
  cases peer with
  | none => cases hforwarded
  | some p =>
    rw [withForwarded] at hforwarded ⊢
    split at hforwarded
    · cases hforwarded
    next hroute =>
      rw [if_neg hroute]
      rcases error_of_bind hforwarded with hvalue | ⟨value, -, hinsert⟩
      · rw [hvalue]
        rfl
      · cases hinsert

theorem withDefaults_error_congr (hvia : h.values "via" = h'.values "via")
    (hdefaults : c.withDefaults accept h peer = .error e) :
    c.withDefaults accept h' peer = .error e := by
  have hway : c.wayOf ((h.insertIfNew "accept" (plainValue accept)).insertIfNew "user-agent"
      c.userAgent) = c.wayOf ((h'.insertIfNew "accept" (plainValue accept)).insertIfNew
        "user-agent" c.userAgent) :=
    wayOf_congr (by simp [Headers.values_insertIfNew, hvia])
  rw [withDefaults] at hdefaults ⊢
  rw [← hway]
  rcases error_of_bind hdefaults with hfirst | ⟨way, hfirst, hforwarded⟩
  · rw [hfirst]
    rfl
  · rw [hfirst]
    exact withForwarded_error_congr hforwarded

/-- **Whether headers can be made** depends on the way and the authorisation that came in. -/
theorem requestHeaders_error_congr (hvia : h.values "via" = h'.values "via")
    (hauthorization : h.values "authorization" = h'.values "authorization")
    (herror : (c.requestHeaders accept h peer).1 = .error e) :
    (c.requestHeaders accept h' peer).1 = .error e := by
  rw [requestHeaders] at herror
  split at herror
  next hdefaults =>
    rw [requestHeaders, withDefaults_error_congr hvia hdefaults]
    exact herror
  next before hdefaults =>
    rw [requestHeaders]
    cases hdefaults' : c.withDefaults accept h' peer with
    | error e' =>
      cases hdefaults.symm.trans (withDefaults_error_congr hvia.symm hdefaults')
    | ok before' =>
      have hbefore : before.values "authorization" = before'.values "authorization" := by
        rw [values_withDefaults hdefaults (by decide), values_withDefaults hdefaults' (by decide)]
        simpa using hauthorization
      dsimp only at herror ⊢
      rw [Credential.result_authorize_congr hbefore] at herror
      generalize (Credential.authorize before' c.uplink.credential c.env).result = result at *
      cases result with
      | error => exact herror
      | ok => cases herror

end Client

namespace MetadataCall

variable {call : MetadataCall} {w : World} {request : Request} {n : Nat} {m : RemoteMetadata}

/-! ## The tag in the request -/

/-- **A tag that came in plain text can be sent.** -/
theorem conditional_of_text? (hetag : call.etag = some etag) (htext : v.text? = some etag) :
    call.conditional = .ok (call.headers.insert "if-none-match" { bytes := v.bytes }) := by
  rw [conditional, hetag]
  dsimp only
  rw [HeaderValue.ofText?_of_text? htext]

/-- **A fetch with a tag is refused only as it would be without.** -/
theorem draft_error_of_tag (hetag : call.etag = some etag) (htext : v.text? = some etag)
    (herror : call.draft w = .error e) : draft { call with etag := none } w = .error e := by
  have hconditional : conditional { call with etag := none } = .ok call.headers := rfl
  cases havailable : w.isAvailable with
  | false =>
    rw [draft, havailable] at herror ⊢
    exact herror
  | true =>
    rw [draft_of_conditional havailable (conditional_of_text? hetag htext)] at herror
    rw [draft_of_conditional havailable hconditional]
    rcases error_of_bind herror with hheaders | ⟨_, -, hdone⟩
    · rw [Client.requestHeaders_error_congr ?_ ?_ hheaders]
      · rfl
      · simp [Headers.values_insert]
      · simp [Headers.values_insert]
    · cases hdone

/-- **The tag goes out as it came**, unless a configured header stands in its place. -/
theorem values_of_tag (hmade : w.client.MadeFor u env) (hetag : call.etag = some etag)
    (htext : v.text? = some etag) (hdraft : call.draft w = .ok request) :
    request.headers.values "if-none-match" =
      (u.configured "if-none-match").elim [{ bytes := v.bytes }] fun value => [value] := by
  rw [draft] at hdraft
  split at hdraft
  · obtain ⟨h, hconditional, hdraft⟩ := exists_of_bind_eq_ok hdraft
    obtain ⟨headers, hheaders, hdraft⟩ := exists_of_bind_eq_ok hdraft
    cases hdraft
    obtain rfl := Except.ok.inj ((conditional_of_text? hetag htext).symm.trans hconditional)
    obtain ⟨before, hdefaults, hok, rfl⟩ := Client.exists_of_requestHeaders hheaders
    dsimp only
    rw [Client.values_withOverrides hmade.equipped,
      (Credential.values_authorize hok).1 _ (by decide),
      Client.values_withDefaults hdefaults (by decide), Headers.values_insert]
    rfl
  · cases hdraft

/-! ## Fetches -/

/-- **A fetch**: a call in its world, when it is given up, and what happens to the world between its
turns, which leaves the uplink as it is. -/
structure Course where
  /-- The call. -/
  call : MetadataCall
  /-- The world in which it starts. -/
  world : World
  /-- When it is given up. -/
  moment : Option Nat := none
  /-- What happens between its turns. -/
  others : Nat → World → World
  /-- Nothing has happened yet. -/
  start : call.stage = .start
  /-- The uplink stays the same. -/
  keeps : ∀ n w, (others n w).client.uplink = w.client.uplink

namespace Course

variable {k : Course}

/-- The call and its world after `n` turns. -/
def after (k : Course) (n : Nat) : MetadataCall × World := k.call.after k.world k.moment k.others n

/-- The request of the call, or what stands against it. -/
def draft (k : Course) : Except Error Request := k.call.draft k.world

/-- The request that goes out in a turn, if one does. -/
def sends (k : Course) (n : Nat) : Option Request :=
  (Operation.metadata ((k.after n).1.inTurn k.moment n)).sends (k.after n).2

/-- The fetch is answered. -/
def Answered (k : Course) (r : Response) : Prop :=
  ∃ request, k.draft = .ok request ∧ ((k.after 1).2.send request).1.answer = .ok r

/-- The fetch brings a document. -/
def Brings (k : Course) (m : RemoteMetadata) : Prop := ∃ n, (k.after n).1.stage = .over (.ok m)

/-- There is one request, so one exchange. -/
theorem exists_exchange (k : Course) :
    ∃ x, ∀ request, k.draft = .ok request → ((k.after 1).2.send request).1 = x := by
  cases hdraft : k.draft with
  | error e => exact ⟨{ answer := .error .broken }, nofun⟩
  | ok request => exact ⟨_, fun _ h => by cases h; rfl⟩

theorem exchange_of_quiet (k : Course) (hquiet : ∀ n w, (k.others n w).network = w.network)
    (request : Request) : ((k.after 1).2.send request).1 = (k.world.network.send request).1 :=
  MetadataCall.exchange_of_quiet k.start hquiet request

/-- **A fetch that can bring a document does.** -/
theorem brings_of_reads {x : Exchange} {i d : Nat} {r : Response}
    (hexchange : ∀ request, k.draft = .ok request → ((k.after 1).2.send request).1 = x)
    (hreads : k.call.Reads k.world x k.moment i r d .ends)
    (hdecodes : Package.decode (k.call.body k.world r).chunks.flatten = some m.package)
    (hetag : m.etag = r.etag) : k.Brings m := by
  obtain ⟨t, hends⟩ := ends_ok_iff.2 ⟨i, r, d, hreads, hdecodes, hetag⟩
  exact ⟨t + 1, (over_iff_ends k.start k.keeps hexchange (t + 1) _).2
    ⟨t, Nat.lt_succ_self t, hends⟩⟩

/-- **The tag of a document is that of the answer.** -/
theorem Brings.answered (h : k.Brings m) : ∃ r, k.Answered r ∧ m.etag = r.etag := by
  obtain ⟨n, hover⟩ := h
  obtain ⟨x, hexchange⟩ := k.exists_exchange
  obtain ⟨t, -, hends⟩ := (over_iff_ends k.start k.keeps hexchange n _).1 hover
  obtain ⟨_, r, _, hreads, -, hetag⟩ := ends_ok_iff.1 ⟨t, hends⟩
  obtain ⟨request, hdraft⟩ := hreads.hears.cleared
  refine ⟨r, ⟨request, hdraft, ?_⟩, hetag⟩
  rw [hexchange request hdraft, hreads.hears.answer]

theorem after_one_stage (k : Course) : (k.after 1).1.stage =
    match k.draft with
    | .error e => .over (.error e)
    | .ok request => .asking request := MetadataCall.after_one_stage k.start

/-- **What is sent is the request of the call**, in the second turn. -/
theorem draft_of_sends (h : k.sends n = some request) : n = 1 ∧ k.draft = .ok request := by
  have hasking : (k.after n).1.stage = .asking request := by
    rw [sends, Operation.sends] at h
    split at h
    next hstage =>
      split at h
      · cases h
      · cases h
        exact hstage
    next => cases h
  obtain ⟨x, hexchange⟩ := k.exists_exchange
  have hone : n = 1 := by
    cases n with
    | zero => cases k.start.symm.trans hasking
    | succ n =>
      have houtlook := outlook_after k.start k.keeps hexchange n
      change Outlook _ _ _ _ _ (k.after (n + 1)).1.stage at houtlook
      rw [hasking] at houtlook
      generalize n + 1 = turn at houtlook
      cases houtlook
      rfl
  subst hone
  rw [after_one_stage] at hasking
  split at hasking
  · cases hasking
  next hdraft =>
    cases hasking
    exact ⟨rfl, hdraft⟩

/-- The request is sent unless the call is given up before. -/
theorem sends_of_draft (hdraft : k.draft = .ok request) (htime : InTime k.moment 1) :
    k.sends 1 = some request := by
  have hstage := k.after_one_stage
  rw [hdraft] at hstage
  have hstage : ((k.after 1).1.inTurn k.moment 1).stage = .asking request := hstage
  have hgoing : ((k.after 1).1.inTurn k.moment 1).cancelled = false :=
    Bool.eq_false_iff.2 fun h => (cancelled_inTurn _ _ _).1 h htime
  rw [sends, Operation.sends, hstage]
  dsimp only
  rw [hgoing]
  rfl

end Course

/-- **The tag of a document survives until the next fetch.**  It is that of the answer, in plain
text.  Once the uplink has left its mark with it, the package can be kept through any run of events
in which this uplink leaves no other mark, and the tag is still there.  A fetch with it is refused
only as one without it would be; unless it is given up at once it sends its request, and this has
the tag as its only `if-none-match`, byte for byte, or the value that is configured for the
uplink. -/
theorem etag_survives {first : Course} (hbrings : first.Brings m) (hetag : m.etag = some etag) :
    ∃ r v, first.Answered r ∧ r.headers.get? "etag" = some v ∧ v.text? = some etag ∧
      ∀ (text : Bytes) (p : Package) (f : Freshness) (now : Moment) (onCalendar : now.OnCalendar)
        (events : List Package.Event),
        Package.decode text = some p → (∀ e ∈ events, e.mark? f.uplink = none) →
        ∃ q, p.run (.mark f m.etag now onCalendar :: events) = some q ∧
          f.cachedEtag q = some etag ∧
          ∀ (second : Course) (u : Uplink) (env : Environment),
            second.world.client.MadeFor u env → second.call.etag = f.cachedEtag q →
            (∀ e, second.draft = .error e →
              draft { second.call with etag := none } second.world = .error e) ∧
            (∀ request, second.draft = .ok request → InTime second.moment 1 →
              second.sends 1 = some request) ∧
            ∀ n request, second.sends n = some request →
              request.headers.values "if-none-match" =
                (u.configured "if-none-match").elim [{ bytes := v.bytes }] fun x => [x] := by
  obtain ⟨r, hanswered, hsame⟩ := hbrings.answered
  obtain ⟨v, hvalue, htext⟩ := Option.bind_eq_some_iff.1 (hsame.symm.trans hetag)
  refine ⟨r, v, hanswered, hvalue, htext, ?_⟩
  intro text p f now onCalendar events hdecode hothers
  obtain ⟨q, hrun, -, hlast⟩ := Package.exists_run (Package.storable_of_decode hdecode)
    (.mark f m.etag now onCalendar :: events)
  have hmarks : q.marks.find? f.uplink = some ⟨m.etag, now / Moment.perMillisecond⟩ := by
    have hnone : events.filterMap (Package.Event.mark? f.uplink) = [] :=
      List.filterMap_eq_nil_iff.2 hothers
    rw [hlast, Package.marksOf, List.filterMap_cons, Package.Event.mark?, if_pos rfl, hnone]
    exact List.getLast?_concat
  have hcached : f.cachedEtag q = some etag := by
    rw [Freshness.cachedEtag, hmarks]
    exact hetag
  refine ⟨q, hrun, hcached, fun second u env hmade hsecond => ?_⟩
  rw [hcached] at hsecond
  refine ⟨fun e => draft_error_of_tag hsecond htext, fun request => Course.sends_of_draft, ?_⟩
  intro n request hsends
  exact values_of_tag hmade hsecond htext (Course.draft_of_sends hsends).2

/-- A document with a tag. -/
def tagged : Response where
  status := 200
  headers := ⟨[("etag", Client.plainValue "\"x\"")]⟩
  body := [.chunk (Utf8.encode "\x7b\"name\":\"p\"\x7d")]

/-- An uplink with configured headers. -/
def configuredWith (headers : Dict String) : Uplink :=
  { Client.guarded with baseUrl := "http://[::1]", headers }

/-- A fetch from this uplink, where every document has a tag, with time passing. -/
def visit (headers : Dict String) (overrides : Headers) (etag : Option String) : Course where
  call := { name := "p", etag }
  world := {
    client := { Client.guardedClient with uplink := configuredWith headers, overrides }
    network := { answers := fun _ => { answer := .ok tagged } } }
  others := tick
  start := rfl
  keeps _ _ := rfl

theorem target?_visit (headers : Headers) : (Request.target? {
    url := "http://[::1]" ++ "/" ++ Package.encodeName "p", headers }).isSome = true := by
  rw [target?_eq]
  decide +kernel

theorem exchange_visit {headers : Dict String} {overrides : Headers} (request : Request)
    (hdraft : (visit headers overrides none).draft = .ok request) :
    (((visit headers overrides none).after 1).2.send request).1 =
      { answer := .ok tagged } := by
  obtain ⟨out, rfl⟩ := exists_of_draft_eq_ok hdraft
  have haddress : address (visit headers overrides none).call (visit headers overrides none).world =
      "http://[::1]" ++ "/" ++ Package.encodeName "p" := rfl
  rw [Course.exchange_of_quiet _ fun _ _ => rfl, haddress, Network.send, if_pos (target?_visit out)]
  rfl

theorem visit_brings {headers : Dict String} {overrides : Headers}
    (hcleared : ∃ request, (visit headers overrides none).draft = .ok request) :
    ∃ m, (visit headers overrides none).Brings m ∧ m.etag = some "\"x\"" := by
  obtain ⟨package, hdecodes⟩ :
      ∃ package, Package.decode (Utf8.encode "\x7b\"name\":\"p\"\x7d") = some package := ⟨_, rfl⟩
  have hetag : some "\"x\"" = tagged.etag := by decide +kernel
  have hhears : (visit headers overrides none).call.Hears (visit headers overrides none).world
      { answer := .ok tagged } none 0 (.ok tagged) := ⟨hcleared, rfl, nofun, rfl⟩
  exact ⟨{ package, etag := some "\"x\"" },
    Course.brings_of_reads exchange_visit ⟨hhears, rfl, rfl, rfl, nofun⟩ hdecodes hetag, rfl⟩

/-- The package is stored and another uplink leaves its mark before the tag goes out again. -/
theorem etag_survives_tagged :
    ∃ m p q request, (visit ∅ ∅ none).Brings m ∧ m.etag = some "\"x\"" ∧
      Package.decode Package.stamped = some p ∧
      p.run [.mark ⟨"a", .ofMilliseconds 2⟩ m.etag 0 ⟨by decide, by decide⟩, .store ∅ "p",
        .mark ⟨"b", .ofMilliseconds 2⟩ none 7 ⟨by decide, by decide⟩] = some q ∧
      (visit ∅ ∅ (Freshness.cachedEtag ⟨"a", .ofMilliseconds 2⟩ q)).sends 1 = some request ∧
      request.headers.values "if-none-match" = [Client.plainValue "\"x\""] := by
  obtain ⟨m, hbrings, hetag⟩ : ∃ m, (visit ∅ ∅ none).Brings m ∧ m.etag = some "\"x\"" :=
    visit_brings ⟨_, rfl⟩
  obtain ⟨p, hdecode⟩ : ∃ p, Package.decode Package.stamped = some p := ⟨_, rfl⟩
  obtain ⟨r, v, -, -, htext, hkept⟩ := etag_survives hbrings hetag
  obtain ⟨q, hrun, hcached, hnext⟩ := hkept Package.stamped p ⟨"a", .ofMilliseconds 2⟩ 0
    ⟨by decide, by decide⟩ [.store ∅ "p", .mark ⟨"b", .ofMilliseconds 2⟩ none 7
      ⟨by decide, by decide⟩] hdecode (by decide)
  have hmade : (visit ∅ ∅ (Freshness.cachedEtag ⟨"a", .ofMilliseconds 2⟩ q)).world.client.MadeFor
      (configuredWith ∅) fun _ => none := ⟨_, rfl, rfl⟩
  obtain ⟨-, hsends, hvalues⟩ := hnext _ _ _ hmade rfl
  obtain ⟨request, hdraft⟩ : ∃ request,
      (visit ∅ ∅ (Freshness.cachedEtag ⟨"a", .ofMilliseconds 2⟩ q)).draft = .ok request := by
    rw [hcached]
    exact ⟨_, rfl⟩
  have hsent := hsends request hdraft nofun
  have hbytes : ({ bytes := v.bytes } : HeaderValue) = Client.plainValue "\"x\"" := by
    rw [← HeaderValue.encode_of_text? htext]
    rfl
  refine ⟨m, p, q, request, hbrings, hetag, hdecode, hrun, hsent, ?_⟩
  rw [hvalues 1 request hsent, ← hbytes]
  rfl

/-- A fetch from an uplink with a configured `if-none-match`. -/
def fixedVisit (etag : Option String) : Course :=
  visit (.ofList [("If-None-Match", "\"y\"")])
    ⟨[("if-none-match", Client.plainValue "\"y\"")]⟩ etag

/-- **A configured header goes out in the place of the tag.** -/
theorem etag_replaced :
    ∃ m p q request, (fixedVisit none).Brings m ∧ m.etag = some "\"x\"" ∧
      Package.decode Package.stamped = some p ∧
      p.run [.mark ⟨"a", .ofMilliseconds 2⟩ m.etag 0 ⟨by decide, by decide⟩] = some q ∧
      (∃ u env, (fixedVisit none).world.client.MadeFor u env) ∧
      (fixedVisit (Freshness.cachedEtag ⟨"a", .ofMilliseconds 2⟩ q)).sends 1 = some request ∧
      request.headers.values "if-none-match" ≠ [Client.plainValue "\"x\""] := by
  obtain ⟨m, hbrings, hetag⟩ : ∃ m, (fixedVisit none).Brings m ∧ m.etag = some "\"x\"" :=
    visit_brings ⟨_, rfl⟩
  obtain ⟨p, hdecode⟩ : ∃ p, Package.decode Package.stamped = some p := ⟨_, rfl⟩
  have hcached : Freshness.cachedEtag ⟨"a", .ofMilliseconds 2⟩
      (Freshness.markFetchedAt ⟨"a", .ofMilliseconds 2⟩ p m.etag 0) = some "\"x\"" := by
    rw [Freshness.cachedEtag, Freshness.markFetchedAt, Dict.find?_insert_self]
    exact hetag
  have hmade : (fixedVisit none).world.client.MadeFor (fixedVisit none).world.client.uplink
      fun _ => none := ⟨_, rfl, rfl⟩
  obtain ⟨request, hdraft, hvalues⟩ : ∃ request,
      (fixedVisit (some "\"x\"")).draft = .ok request ∧
        request.headers.values "if-none-match" = [Client.plainValue "\"y\""] :=
    ⟨_, rfl, by decide +kernel⟩
  refine ⟨m, p, _, request, hbrings, hetag, hdecode, rfl, ⟨_, _, hmade⟩, ?_, ?_⟩
  · rw [hcached]
    exact Course.sends_of_draft hdraft fun m hm => absurd hm (Option.not_mem_none m)
  · rw [hvalues]
    decide +kernel

end MetadataCall

end RegistryProxy
