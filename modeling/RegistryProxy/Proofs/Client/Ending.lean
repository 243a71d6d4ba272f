import RegistryProxy.Client.Metadata
import RegistryProxy.Proofs.Client.Layers
import RegistryProxy.Proofs.Transfer.Transcript

/-!
# Proofs/Client/Ending — how a call ends

A call is refused, is given up at some moment, fails in one of its stages, or brings a document.
`Ends` tells which, and in which turn.  It is the outcome of two races (`Race`) between the moment
when the call is given up and what the call waits for: first the answer, then the end of the body
(`ends_iff_of_cleared`).
-/

namespace RegistryProxy

open Client (World)

/-! ## How long a body takes -/

namespace Body

/-- **How often a body is asked before its end**, or before its failure; `none` is for ever. -/
def delay : Body → Option Nat
  | .chunk _ :: rest | .wait :: rest => (delay rest).map (· + 1)
  | .fault _ :: _ | [] => some 0
  | .stall :: _ => none

theorem ending_ne_stalls {body : Body} {d : Nat} (h : body.delay = some d) :
    body.ending ≠ .stalls := by
  induction body generalizing d with
  | nil => nofun
  | cons part rest ih =>
    cases part with
    | chunk | wait =>
      obtain ⟨d', hd', -⟩ := Option.map_eq_some_iff.1 h
      exact ih hd'
    | fault => nofun
    | stall => cases h

/-- A body that fails does so with a failure in the words of its client. -/
theorem failure_of_ending {f : Failure → Error} {r : Response} {e : Error}
    (h : (r.bodyWith f).ending = .fails e) : ∃ failure, e = f failure := by
  rw [Response.bodyWith] at h
  generalize r.body = parts at h
  induction parts with
  | nil => cases h
  | cons part rest ih =>
    cases part with
    | chunk | wait => exact ih h
    | fault failure =>
      cases h
      exact ⟨failure, rfl⟩
    | stall => cases h

end Body

namespace MetadataCall

/-! ## Ends -/

/-- Whether a turn is before the moment when a call is given up, if there is one. -/
def InTime (moment : Option Nat) (turn : Nat) : Prop := ∀ m ∈ moment, turn < m

/-- Where the document is. -/
def address (c : MetadataCall) (w : World) : String := urlOf w.client.uplink c.name

/-- The body of an answer, as the call reads it. -/
def body (c : MetadataCall) (w : World) (r : Response) : Body :=
  r.bodyWith (Client.transportError (c.address w))

/-- **The request of a call**, or what stands against it. -/
def draft (c : MetadataCall) (w : World) : Except Error Request :=
  if w.isAvailable then do
    let h ← c.conditional
    let headers ← (w.client.requestHeaders Client.documentType h c.peer).1
    return { url := c.address w, headers }
  else .error w.offline

/-- **What stands against a request**, in order: the breaker, the tag, a header, the credential. -/
inductive Refused (c : MetadataCall) (w : World) : Error → Prop
  | offline (closed : w.isAvailable = false) : Refused c w w.offline
  | tag (etag : String) (available : w.isAvailable = true) (conditional : c.etag = some etag)
    (invalid : HeaderValue.ofText? etag = none) : Refused c w (invalidTag etag)
  | header (h : Headers) (text : String) (available : w.isAvailable = true)
    (conditional : c.conditional = .ok h)
    (invalid : (w.client.requestHeaders Client.documentType h c.peer).1 =
      .error (Client.invalidValue text)) :
    Refused c w (Client.invalidValue text)
  | credential (h : Headers) (reason : String) (available : w.isAvailable = true)
    (conditional : c.conditional = .ok h)
    (unusable : (w.client.requestHeaders Client.documentType h c.peer).1 =
      .error (.authConfig reason)) :
    Refused c w (.authConfig reason)

/-- **A call hears its answer**: its request goes out, and it has not been given up in turn `k + 2`,
when the answer is there. -/
structure Hears (c : MetadataCall) (w : World) (x : Exchange) (moment : Option Nat) (k : Nat)
    (content : Except Failure Response) : Prop where
  /-- Nothing stands against the request. -/
  cleared : ∃ request, c.draft w = .ok request
  /-- How often there is no answer yet. -/
  waits : x.waits = some k
  /-- The call has not been given up. -/
  inTime : InTime moment (k + 2)
  /-- The answer. -/
  answer : x.answer = content

/-- **A call reads a body**: the status is a success, and in turn `k + 3 + d`, when the body is at
its end or fails, the call has not been given up. -/
structure Reads (c : MetadataCall) (w : World) (x : Exchange) (moment : Option Nat) (k : Nat)
    (r : Response) (d : Nat) (ending : Body.Ending) : Prop where
  /-- The answer was heard. -/
  hears : c.Hears w x moment k (.ok r)
  /-- All went well so far. -/
  success : r.isSuccess = true
  /-- How often the body is asked before. -/
  delay : (c.body w r).delay = some d
  /-- How it leaves off. -/
  ending : (c.body w r).ending = ending
  /-- The call has not been given up. -/
  inTime : InTime moment (k + 3 + d)

/-- **How a call ends**: the turn in which it is over, and with what; `x` is what becomes of its
request, and `moment` when it is given up. -/
inductive Ends (c : MetadataCall) (w : World) (x : Exchange) (moment : Option Nat) :
    Nat → Except Error RemoteMetadata → Prop
  | refused (e : Error) (refused : c.Refused w e) : Ends c w x moment 0 (.error e)
  | abortedBefore (m : Nat) (cleared : ∃ request, c.draft w = .ok request)
    (moment_eq : moment = some m) (late : ∀ k ∈ x.waits, m ≤ k + 2) :
    Ends c w x moment (max 1 m) (.error (givenUp (c.address w)))
  | unanswered (k : Nat) (failure : Failure) (hears : c.Hears w x moment k (.error failure)) :
    Ends c w x moment (k + 2) (.error (Client.transportError (c.address w) failure))
  | notFound (k : Nat) (r : Response) (hears : c.Hears w x moment k (.ok r))
    (status : r.status = 404) : Ends c w x moment (k + 2) (.error (.notFound c.name))
  | badStatus (k : Nat) (r : Response) (hears : c.Hears w x moment k (.ok r))
    (known : r.status ≠ 404) (failed : r.isSuccess = false) :
    Ends c w x moment (k + 2) (.error (.badStatus r.status (c.address w)))
  | abortedDuring (k : Nat) (r : Response) (m : Nat) (hears : c.Hears w x moment k (.ok r))
    (success : r.isSuccess = true) (moment_eq : moment = some m)
    (late : ∀ d ∈ (c.body w r).delay, m ≤ k + 3 + d) :
    Ends c w x moment m (.error (givenUp (c.address w)))
  | cut (k : Nat) (r : Response) (d : Nat) (failure : Failure)
    (reads : c.Reads w x moment k r d (.fails (Client.transportError (c.address w) failure))) :
    Ends c w x moment (k + 3 + d) (.error (Client.transportError (c.address w) failure))
  | unreadable (k : Nat) (r : Response) (d : Nat) (reads : c.Reads w x moment k r d .ends)
    (undecodable : Package.decode (c.body w r).chunks.flatten = none) :
    Ends c w x moment (k + 3 + d) (.error (unreadable c.name))
  | fetched (k : Nat) (r : Response) (d : Nat) (package : Package)
    (reads : c.Reads w x moment k r d .ends)
    (decodes : Package.decode (c.body w r).chunks.flatten = some package) :
    Ends c w x moment (k + 3 + d) (.ok { package, etag := r.etag })

variable {c : MetadataCall} {w : World} {x : Exchange} {moment delay : Option Nat} {n t : Nat}
  {url : String} {e : Error}
  {result : Except Error RemoteMetadata}
  {next : Nat → Nat → Except Error RemoteMetadata → Prop}

/-! ## Races -/

/-- **A call that waits**, from turn `n` on, for what comes `delay` turns later: it is given up
before, or goes on as `next` tells.  A call that is given up in the turn in which it comes does not
see it. -/
inductive Race (url : String) (moment : Option Nat) (n : Nat) (delay : Option Nat)
    (next : Nat → Nat → Except Error RemoteMetadata → Prop) :
    Nat → Except Error RemoteMetadata → Prop
  | aborted (m : Nat) (moment_eq : moment = some m) (late : ∀ d ∈ delay, m ≤ n + d) :
    Race url moment n delay next (max n m) (.error (givenUp url))
  | comes (d t : Nat) (result : Except Error RemoteMetadata) (delay_eq : delay = some d)
    (inTime : InTime moment (n + d)) (goesOn : next (n + d) t result) :
    Race url moment n delay next t result

theorem InTime.mono {n' : Nat} (h : InTime moment n') (hle : n ≤ n') : InTime moment n :=
  fun m hm => Nat.lt_of_le_of_lt hle (h m hm)

theorem exists_of_not_inTime (h : ¬ InTime moment n) : ∃ m, moment = some m ∧ m ≤ n := by
  simp only [InTime, not_forall, Nat.not_lt] at h
  obtain ⟨m, hm, hle⟩ := h
  exact ⟨m, hm, hle⟩

namespace Race

/-- A race takes its time. -/
theorem le (h : Race url moment n delay next t result)
    (hnext : ∀ turn t result, next turn t result → turn ≤ t) : n ≤ t := by
  cases h with
  | aborted m => exact Nat.le_max_left n m
  | comes d _ _ _ _ hgoesOn => exact Nat.le_of_add_right_le (hnext _ _ _ hgoesOn)

/-- Whoever waits for something that comes, or is given up, does not wait for ever. -/
theorem exists_end (hends : moment.isSome ∨ delay.isSome)
    (hnext : ∀ d ∈ delay, ∃ t result, next (n + d) t result) :
    ∃ t result, Race url moment n delay next t result := by
  by_cases htime : ∃ d ∈ delay, InTime moment (n + d)
  · obtain ⟨d, hd, hinTime⟩ := htime
    obtain ⟨t, result, hgoesOn⟩ := hnext d hd
    exact ⟨t, result, .comes d t result hd hinTime hgoesOn⟩
  · have hlate (d : Nat) (hd : d ∈ delay) : ¬ InTime moment (n + d) :=
      fun hinTime => htime ⟨d, hd, hinTime⟩
    obtain ⟨m, hm⟩ : ∃ m, moment = some m := by
      rcases hends with hmoment | hdelay
      · exact Option.isSome_iff_exists.1 hmoment
      · obtain ⟨d, hd⟩ := Option.isSome_iff_exists.1 hdelay
        obtain ⟨m, hm, -⟩ := exists_of_not_inTime (hlate d hd)
        exact ⟨m, hm⟩
    refine ⟨_, _, .aborted m hm fun d hd => ?_⟩
    obtain ⟨m', hm', hle⟩ := exists_of_not_inTime (hlate d hd)
    cases hm.symm.trans hm'
    exact hle

/-- A call that was given up loses. -/
theorem iff_of_late (h : ¬ InTime moment n) :
    Race url moment n delay next t result ↔ t = n ∧ result = .error (givenUp url) := by
  obtain ⟨m, rfl, hm⟩ := exists_of_not_inTime h
  constructor
  · intro hrace
    cases hrace with
    | aborted m' hmoment =>
      cases hmoment
      exact ⟨Nat.max_eq_left hm, rfl⟩
    | comes d _ _ _ hinTime => exact absurd (hinTime.mono (Nat.le_add_right n d)) h
  · rintro ⟨rfl, rfl⟩
    have hrace : Race url (some m) t delay next (max t m) (.error (givenUp url)) :=
      .aborted m rfl fun d _ => Nat.le_add_right_of_le hm
    rwa [Nat.max_eq_left hm] at hrace

/-- What is there at once wins over a call that was not given up. -/
theorem iff_of_now (h : InTime moment n) :
    Race url moment n (some 0) next t result ↔ next n t result := by
  constructor
  · intro hrace
    cases hrace with
    | aborted m hmoment hlate => exact absurd (h m hmoment) (Nat.not_lt.2 (hlate 0 rfl))
    | comes d _ _ hdelay _ hgoesOn =>
      cases hdelay
      exact hgoesOn
  · exact fun hgoesOn => .comes 0 t result rfl h hgoesOn

/-- A turn of waiting does not change who wins. -/
theorem iff_of_later (delay : Option Nat) (h : InTime moment n) :
    Race url moment n (delay.map (· + 1)) next t result ↔
      Race url moment (n + 1) delay next t result := by
  have hturn (d : Nat) : n + (d + 1) = n + 1 + d := by omega
  constructor
  · intro hrace
    cases hrace with
    | aborted m hmoment hlate =>
      have hm := h m hmoment
      rw [show max n m = max (n + 1) m by omega]
      refine .aborted m hmoment fun d hd => ?_
      rw [← hturn]
      exact hlate (d + 1) (Option.mem_map_of_mem _ hd)
    | comes d _ _ hdelay hinTime hgoesOn =>
      obtain ⟨d, rfl, rfl⟩ := Option.map_eq_some_iff.1 hdelay
      rw [hturn] at hinTime hgoesOn
      exact .comes d _ _ rfl hinTime hgoesOn
  · intro hrace
    cases hrace with
    | aborted m hmoment hlate =>
      have hm := h m hmoment
      rw [show max (n + 1) m = max n m by omega]
      refine .aborted m hmoment fun d' hd' => ?_
      obtain ⟨d, hd, rfl⟩ := Option.map_eq_some_iff.1 hd'
      rw [hturn]
      exact hlate d hd
    | comes d _ _ hdelay hinTime hgoesOn =>
      rw [← hturn] at hinTime hgoesOn
      exact .comes (d + 1) _ _ (by rw [hdelay]; rfl) hinTime hgoesOn

end Race

/-! ## What each stage comes to -/

/-- What the end of a body comes to. -/
def AtEnd (c : MetadataCall) (etag : Option String) (rest : Body) (collected : Bytes)
    (turn t : Nat) (result : Except Error RemoteMetadata) : Prop :=
  t = turn ∧
    match rest.ending with
    | .ends => result = finish c.name etag (collected ++ rest.chunks.flatten)
    | .fails e => result = .error e
    | .stalls => False

/-- What an answer comes to. -/
def AtAnswer (c : MetadataCall) (w : World) (moment : Option Nat) :
    Except Failure Response → Nat → Nat → Except Error RemoteMetadata → Prop
  | .error failure, turn, t, result =>
    t = turn ∧ result = .error (Client.transportError (c.address w) failure)
  | .ok r, turn, t, result =>
    if r.isSuccess then
      Race (c.address w) moment (turn + 1) (c.body w r).delay (c.AtEnd r.etag (c.body w r) [])
        t result
    else t = turn ∧ result = .error (refusal c.name (c.address w) r.status)

theorem AtEnd.le {etag : Option String} {rest : Body} {collected : Bytes} {turn : Nat}
    (h : c.AtEnd etag rest collected turn t result) : turn ≤ t := Nat.le_of_eq h.1.symm

theorem AtAnswer.le {answer : Except Failure Response} {turn : Nat}
    (h : c.AtAnswer w moment answer turn t result) : turn ≤ t := by
  cases answer with
  | error failure => exact Nat.le_of_eq h.1.symm
  | ok r =>
    rw [AtAnswer] at h
    split at h
    · exact Nat.le_of_succ_le (h.le fun _ _ _ => AtEnd.le)
    · exact Nat.le_of_eq h.1.symm

/-! ## Before the request -/

/-- Once the breaker and the tag let it, a request depends on its headers. -/
theorem draft_of_conditional {h : Headers} (havailable : w.isAvailable = true)
    (hconditional : c.conditional = .ok h) :
    c.draft w = do
      let headers ← (w.client.requestHeaders Client.documentType h c.peer).1
      return { url := c.address w, headers } := by
  rw [draft, if_pos havailable, hconditional]
  rfl

theorem exists_of_draft_eq_ok {request : Request} (h : c.draft w = .ok request) :
    ∃ headers, request = { url := c.address w, headers } := by
  rw [draft] at h
  split at h
  · obtain ⟨_, -, h⟩ := exists_of_bind_eq_ok h
    obtain ⟨headers, -, h⟩ := exists_of_bind_eq_ok h
    cases h
    exact ⟨headers, rfl⟩
  · cases h

/-- What preparing a call comes to. -/
theorem prepare_stage (c : MetadataCall) (w : World) :
    (c.prepare w).2.1.stage =
      match c.draft w with
      | .error e => .over (.error e)
      | .ok request => .asking request := by
  rw [prepare]
  cases havailable : w.isAvailable with
  | false =>
    rw [draft, havailable]
    rfl
  | true =>
    cases hconditional : c.conditional with
    | error e =>
      rw [draft, havailable, hconditional]
      rfl
    | ok h =>
      rw [draft_of_conditional havailable hconditional]
      dsimp only
      generalize w.client.requestHeaders Client.documentType h c.peer = headers
      obtain ⟨headers, log⟩ := headers
      cases headers <;> rfl

/-- What can stand against a request is what does. -/
theorem refused_iff : c.Refused w e ↔ c.draft w = .error e := by
  constructor
  · intro h
    cases h with
    | offline hclosed => rw [draft, hclosed]; rfl
    | tag etag havailable hetag hinvalid =>
      rw [draft, havailable, conditional, hetag]
      dsimp only
      rw [hinvalid]
      rfl
    | header h text havailable hconditional hinvalid =>
      rw [draft_of_conditional havailable hconditional, hinvalid]
      rfl
    | credential h reason havailable hconditional hunusable =>
      rw [draft_of_conditional havailable hconditional, hunusable]
      rfl
  · intro h
    rw [draft] at h
    split at h
    next havailable =>
      rcases error_of_bind h with htag | ⟨headers, hconditional, h⟩
      · rw [conditional] at htag
        split at htag
        · cases htag
        next etag hetag =>
          split at htag
          · cases htag
          next hinvalid =>
            cases htag
            exact .tag etag havailable hetag hinvalid
      · rcases error_of_bind h with hheaders | ⟨_, -, h⟩
        · obtain ⟨text, rfl⟩ | ⟨reason, rfl⟩ := Client.requestHeaders_eq_error hheaders
          · exact .header headers text havailable hconditional hheaders
          · exact .credential headers reason havailable hconditional hheaders
        · cases h
    next hclosed =>
      cases h
      exact .offline (Bool.eq_false_iff.2 hclosed)

/-- A request that is refused is refused in the first turn. -/
theorem ends_iff_of_refused (h : c.draft w = .error e) :
    c.Ends w x moment t result ↔ t = 0 ∧ result = .error e := by
  have hdraft : ¬ ∃ request, c.draft w = .ok request := by
    rintro ⟨request, hrequest⟩
    cases h.symm.trans hrequest
  constructor
  · intro hends
    cases hends with
    | refused e' hrefused =>
      cases h.symm.trans (refused_iff.1 hrefused)
      exact ⟨rfl, rfl⟩
    | abortedBefore _ hcleared => exact absurd hcleared hdraft
    | unanswered _ _ hhears | notFound _ _ hhears | badStatus _ _ hhears
    | abortedDuring _ _ _ hhears => exact absurd hhears.cleared hdraft
    | cut _ _ _ _ hreads | unreadable _ _ _ hreads | fetched _ _ _ _ hreads =>
      exact absurd hreads.hears.cleared hdraft
  · rintro ⟨rfl, rfl⟩
    exact .refused e (refused_iff.2 h)

/-! ## From the request to the end -/

section Cleared

variable {request : Request}

/-- An answer that was heard goes on as it says. -/
theorem Hears.race {k : Nat} {content : Except Failure Response} (h : c.Hears w x moment k content)
    (hanswer : c.AtAnswer w moment content (k + 2) t result) :
    Race (c.address w) moment 1 (some 0)
      (fun turn => Race (c.address w) moment (turn + 1) x.waits (c.AtAnswer w moment x.answer))
      t result := by
  refine .comes 0 _ _ rfl (h.inTime.mono (Nat.le_add_left ..)) ?_
  have hturn : 1 + 0 + 1 + k = k + 2 := by omega
  refine .comes k _ _ h.waits (hturn ▸ h.inTime) ?_
  rw [h.answer, hturn]
  exact hanswer

/-- A body that was read goes on as it ends. -/
theorem Reads.atAnswer {k d : Nat} {r : Response} {ending : Body.Ending}
    (h : c.Reads w x moment k r d ending)
    (hend : c.AtEnd r.etag (c.body w r) [] (k + 3 + d) t result) :
    c.AtAnswer w moment (.ok r) (k + 2) t result := by
  rw [AtAnswer, if_pos h.success]
  exact .comes d _ _ h.delay h.inTime hend

/-- **The race against the body**: the call is given up, or the body fails or is read. -/
theorem Hears.ends_of_body {k : Nat} {r : Response} (h : c.Hears w x moment k (.ok r))
    (hsuccess : r.isSuccess = true)
    (hrace : Race (c.address w) moment (k + 3) (c.body w r).delay (c.AtEnd r.etag (c.body w r) [])
      t result) : c.Ends w x moment t result := by
  cases hrace with
  | aborted m hmoment hlate =>
    have hm := h.inTime m hmoment
    rw [show max (k + 3) m = m by omega]
    exact .abortedDuring k r m h hsuccess hmoment hlate
  | comes d _ _ hdelay hinTime hend =>
    obtain ⟨rfl, hend⟩ := hend
    cases hending : (c.body w r).ending with
    | stalls => exact absurd hending (Body.ending_ne_stalls hdelay)
    | fails e =>
      rw [hending] at hend
      obtain rfl := hend
      obtain ⟨failure, rfl⟩ := Body.failure_of_ending hending
      exact .cut k r d failure ⟨h, hsuccess, hdelay, hending, hinTime⟩
    | ends =>
      have hreads : c.Reads w x moment k r d .ends := ⟨h, hsuccess, hdelay, hending, hinTime⟩
      rw [hending, List.nil_append] at hend
      obtain rfl := hend
      rw [finish]
      split
      · next package hdecodes => exact .fetched k r d package hreads hdecodes
      · next hundecodable => exact .unreadable k r d hreads hundecodable

/-- **An answer that was heard** ends the call, or its body is read. -/
theorem Hears.ends {k : Nat} {content : Except Failure Response}
    (h : c.Hears w x moment k content) (hanswer : c.AtAnswer w moment content (k + 2) t result) :
    c.Ends w x moment t result := by
  cases content with
  | error failure =>
    obtain ⟨rfl, rfl⟩ := hanswer
    exact .unanswered k failure h
  | ok r =>
    rw [AtAnswer] at hanswer
    split at hanswer
    next hsuccess => exact h.ends_of_body hsuccess hanswer
    next hfailed =>
      obtain ⟨rfl, rfl⟩ := hanswer
      rw [refusal]
      split
      · next hstatus => exact .notFound k r h hstatus
      · next hknown => exact .badStatus k r h hknown (Bool.eq_false_iff.2 hfailed)

/-- Every end of a request that goes out is that of the two races. -/
theorem Ends.race (h : c.Ends w x moment t result) (hcleared : c.draft w = .ok request) :
    Race (c.address w) moment 1 (some 0)
      (fun turn => Race (c.address w) moment (turn + 1) x.waits (c.AtAnswer w moment x.answer))
      t result := by
  cases h with
  | refused e hrefused => cases hcleared.symm.trans (refused_iff.1 hrefused)
  | abortedBefore m _ hmoment hlate =>
    by_cases hm : m ≤ 1
    · exact .aborted m hmoment fun d _ => Nat.le_add_right_of_le hm
    · refine .comes 0 _ _ rfl (fun m' hm' => ?_) ?_
      · cases hmoment.symm.trans hm'
        omega
      · rw [show max 1 m = max 2 m by omega]
        refine .aborted m hmoment fun k hk => ?_
        have hk := hlate k hk
        omega
  | unanswered k failure hhears => exact hhears.race ⟨rfl, rfl⟩
  | notFound k r hhears hstatus =>
    refine hhears.race ?_
    have hfailed : ¬ r.isSuccess = true := by simp [Response.isSuccess, hstatus]
    rw [AtAnswer, if_neg hfailed, refusal, if_pos hstatus]
    exact ⟨rfl, rfl⟩
  | badStatus k r hhears hknown hfailed =>
    refine hhears.race ?_
    rw [AtAnswer, if_neg (Bool.eq_false_iff.1 hfailed), refusal, if_neg hknown]
    exact ⟨rfl, rfl⟩
  | abortedDuring k r _ hhears hsuccess hmoment hlate =>
    refine hhears.race ?_
    have hinTime : k + 3 ≤ t := hhears.inTime t hmoment
    rw [AtAnswer, if_pos hsuccess, ← Nat.max_eq_right hinTime]
    exact .aborted t hmoment hlate
  | cut k r d failure hreads =>
    refine hreads.hears.race (hreads.atAnswer ⟨rfl, ?_⟩)
    rw [hreads.ending]
  | unreadable k r d hreads hundecodable =>
    refine hreads.hears.race (hreads.atAnswer ⟨rfl, ?_⟩)
    rw [hreads.ending]
    simp [finish, hundecodable]
  | fetched k r d package hreads hdecodes =>
    refine hreads.hears.race (hreads.atAnswer ⟨rfl, ?_⟩)
    rw [hreads.ending]
    simp [finish, hdecodes]

/-- **A request that goes out** ends in two races: against the answer, and against the body. -/
theorem ends_iff_of_cleared (hcleared : c.draft w = .ok request) :
    c.Ends w x moment t result ↔
      Race (c.address w) moment 1 (some 0)
        (fun turn => Race (c.address w) moment (turn + 1) x.waits (c.AtAnswer w moment x.answer))
        t result := by
  refine ⟨fun h => h.race hcleared, fun hrace => ?_⟩
  cases hrace with
  | aborted m hmoment hlate =>
    have hm := hlate 0 rfl
    exact .abortedBefore m ⟨request, hcleared⟩ hmoment fun k _ => by omega
  | comes d _ _ hzero hinTime hrace =>
  cases hzero
  cases hrace with
  | aborted m hmoment hlate =>
    have hm := hinTime m hmoment
    rw [show max (1 + 0 + 1) m = max 1 m by omega]
    refine .abortedBefore m ⟨request, hcleared⟩ hmoment fun k hk => ?_
    have hk := hlate k hk
    omega
  | comes k _ _ hwaits hinTime hanswer =>
    rw [show 1 + 0 + 1 + k = k + 2 by omega] at hinTime hanswer
    exact Hears.ends ⟨⟨request, hcleared⟩, hwaits, hinTime, rfl⟩ hanswer

end Cleared

/-! ## Which ends there are -/

/-- **A call does not wait for ever**, unless nobody gives it up and there is no answer or no end of
its body. -/
theorem exists_ends (hends : moment.isSome ∨ x.waits.isSome)
    (hbody : ∀ r, x.answer = .ok r → moment.isSome ∨ (c.body w r).delay.isSome) :
    ∃ t result, c.Ends w x moment t result := by
  cases hrequest : c.draft w with
  | error e => exact ⟨0, _, .refused e (refused_iff.2 hrequest)⟩
  | ok request =>
    simp only [ends_iff_of_cleared hrequest]
    refine Race.exists_end (.inr rfl) fun _ _ => Race.exists_end hends fun _ _ => ?_
    cases hanswer : x.answer with
    | error failure => exact ⟨_, _, rfl, rfl⟩
    | ok r =>
      simp only [AtAnswer]
      split
      · refine Race.exists_end (hbody r hanswer) fun d hd => ?_
        simp only [AtEnd]
        cases hending : (c.body w r).ending with
        | ends | fails => exact ⟨_, _, rfl, rfl⟩
        | stalls => exact absurd hending (Body.ending_ne_stalls hd)
      · exact ⟨_, _, rfl, rfl⟩

/-- **A call brings a document** if and only if it reads a body to its end that holds one. -/
theorem ends_ok_iff {m : RemoteMetadata} :
    (∃ t, c.Ends w x moment t (.ok m)) ↔ ∃ k r d, c.Reads w x moment k r d .ends ∧
      Package.decode (c.body w r).chunks.flatten = some m.package ∧ m.etag = r.etag := by
  constructor
  · rintro ⟨t, hends⟩
    cases hends with
    | fetched k r d package hreads hdecodes => exact ⟨k, r, d, hreads, hdecodes, rfl⟩
  · rintro ⟨k, r, d, hreads, hdecodes, hetag⟩
    obtain ⟨package, etag⟩ := m
    cases hetag
    exact ⟨_, .fetched k r d package hreads hdecodes⟩

end MetadataCall

end RegistryProxy
