import RegistryProxy.Proofs.Client.Ending
import RegistryProxy.Proofs.Client.Turn

/-!
# Proofs/Client/Outlook — a call comes to the end that is told of it

A call has its turns, while others change the world between them, and at some moment it may be given
up.  Every stage tells how the call will end (`Outlook`), and a turn leads to a stage that tells the
same (`Outlook.step`).  So the call ends as it was told before its first turn, in the very turn
(`over_iff_ends`).
-/

namespace RegistryProxy

open Client (World)

namespace MetadataCall

/-- The call in a turn: it knows whether it has been given up. -/
def inTurn (c : MetadataCall) (moment : Option Nat) (n : Nat) : MetadataCall :=
  { c with cancelled := moment.any (· ≤ n) }

/-- **A call and its world after `n` turns.**  In each the call does what comes next; `others` is
what happens to the world between them. -/
def after (c : MetadataCall) (w : World) (moment : Option Nat) (others : Nat → World → World) :
    Nat → MetadataCall × World
  | 0 => (c, w)
  | n + 1 =>
    let (c, w) := after c w moment others n
    let (_, c, w) := (c.inTurn moment n).step w
    (c, others n w)

variable {c c' : MetadataCall} {w w' : World} {x : Exchange} {moment delay : Option Nat}
  {others : Nat → World → World} {n : Nat}
  {next : Nat → Nat → Except Error RemoteMetadata → Prop}

/-- **What the stage in turn `n` tells of the end.** -/
inductive Outlook (c : MetadataCall) (w : World) (x : Exchange) (moment : Option Nat) :
    Nat → Stage → Prop
  | asking (request : Request)
    (ends_iff : ∀ t result, c.Ends w x moment t result ↔
      Race (c.address w) moment 1 (some 0)
        (fun turn => Race (c.address w) moment (turn + 1) x.waits (c.AtAnswer w moment x.answer))
        t result) :
    Outlook c w x moment 1 (.asking request)
  | sending (n : Nat) (x' : Exchange)
    (ends_iff : ∀ t result, c.Ends w x moment t result ↔
      Race (c.address w) moment n x'.waits (c.AtAnswer w moment x'.answer) t result) :
    Outlook c w x moment n (.sending x')
  | reading (n : Nat) (etag : Option String) (rest : Body) (collected : Bytes)
    (ends_iff : ∀ t result, c.Ends w x moment t result ↔
      Race (c.address w) moment n rest.delay (c.AtEnd etag rest collected) t result) :
    Outlook c w x moment n (.reading etag rest collected)
  | ended (n turn : Nat) (last : Except Error RemoteMetadata) (before : turn < n)
    (ends_iff : ∀ t result, c.Ends w x moment t result ↔ t = turn ∧ result = last) :
    Outlook c w x moment n (.over last)

/-! ## A turn -/

/-- In its turn a call knows whether it has been given up. -/
theorem cancelled_inTurn (c : MetadataCall) (moment : Option Nat) (n : Nat) :
    (c.inTurn moment n).cancelled = true ↔ ¬ InTime moment n := by
  cases moment with
  | none => simp [inTurn, InTime]
  | some m => simp [inTurn, InTime]

theorem address_congr (hname : c'.name = c.name) (huplink : w'.client.uplink = w.client.uplink) :
    c'.address w' = c.address w := by
  rw [address, address, hname, huplink]

/-- A step changes neither the uplink nor the name of a call, and does not give it up. -/
theorem step_keeps (c : MetadataCall) (w : World) :
    (c.step w).2.1.name = c.name ∧ (c.step w).2.1.cancelled = c.cancelled ∧
      (c.step w).2.2.client.uplink = w.client.uplink := by
  rw [step]
  split
  · rw [prepare]
    split
    · exact ⟨rfl, rfl, rfl⟩
    · split
      · exact ⟨rfl, rfl, rfl⟩
      · split <;> exact ⟨rfl, rfl, rfl⟩
  · split <;> exact ⟨rfl, rfl, rfl⟩
  · split
    · exact ⟨rfl, rfl, rfl⟩
    · split
      · exact ⟨rfl, rfl, rfl⟩
      · rw [answered.eq_def]
        split
        · exact ⟨rfl, rfl, rfl⟩
        · split <;> exact ⟨rfl, rfl, rfl⟩
  · split
    · exact ⟨rfl, rfl, rfl⟩
    · rw [read]
      split <;> exact ⟨rfl, rfl, rfl⟩
  · exact ⟨rfl, rfl, rfl⟩

/-- A chunk is read with the body or was read before. -/
theorem atEnd_chunk {etag : Option String} {data : Bytes} {rest : Body} {collected : Bytes} :
    c.AtEnd etag (.chunk data :: rest) collected = c.AtEnd etag rest (collected ++ data) := by
  funext turn t result
  rw [AtEnd, AtEnd, List.append_assoc]
  rfl

namespace Outlook

/-- A call that was given up is over. -/
theorem of_late (h : ¬ InTime moment n)
    (ends_iff : ∀ t result, c.Ends w x moment t result ↔
      Race (c.address w) moment n delay next t result) :
    Outlook c w x moment (n + 1) (.over (.error (givenUp (c.address w)))) :=
  .ended (n + 1) n _ (Nat.lt_succ_self n) fun t result =>
    (ends_iff t result).trans (Race.iff_of_late h)

/-- What an answer tells of the end. -/
theorem answered {answer : Except Failure Response} (haddress : c'.address w' = c.address w)
    (hname : c'.name = c.name)
    (ends_iff : ∀ t result, c.Ends w x moment t result ↔
      c.AtAnswer w moment answer n t result) :
    Outlook c w x moment (n + 1) (c'.answered (c'.address w') w' answer).2.1.stage := by
  cases answer with
  | error failure =>
    rw [haddress]
    exact .ended (n + 1) n _ (Nat.lt_succ_self n) ends_iff
  | ok r =>
    rw [MetadataCall.answered]
    split
    next hsuccess =>
      rw [haddress]
      refine .reading (n + 1) _ _ _ fun t result => (ends_iff t result).trans ?_
      rw [AtAnswer, if_pos hsuccess]
      rfl
    next hfailed =>
      rw [haddress, hname]
      refine .ended (n + 1) n _ (Nat.lt_succ_self n) fun t result => (ends_iff t result).trans ?_
      rw [AtAnswer, if_neg hfailed]

/-- What a part of the body tells of the end. -/
theorem read {etag : Option String} {rest : Body} {collected : Bytes} (hname : c'.name = c.name)
    (htime : InTime moment n)
    (ends_iff : ∀ t result, c.Ends w x moment t result ↔
      Race (c.address w) moment n rest.delay (c.AtEnd etag rest collected) t result) :
    Outlook c w x moment (n + 1) (c'.read etag rest collected w').2.1.stage := by
  cases rest with
  | nil =>
    refine .ended (n + 1) n _ (Nat.lt_succ_self n) fun t result =>
      ((ends_iff t result).trans (Race.iff_of_now htime)).trans ?_
    simp [AtEnd, Body.ending, Body.chunks, hname]
  | cons part rest =>
    cases part with
    | fault e =>
      exact .ended (n + 1) n _ (Nat.lt_succ_self n) fun t result =>
        (ends_iff t result).trans (Race.iff_of_now htime)
    | chunk data =>
      rw [atEnd_chunk] at ends_iff
      exact .reading (n + 1) _ _ _ fun t result =>
        (ends_iff t result).trans (Race.iff_of_later _ htime)
    | wait =>
      exact .reading (n + 1) _ _ _ fun t result =>
        (ends_iff t result).trans (Race.iff_of_later _ htime)
    | stall =>
      exact .reading (n + 1) _ _ _ fun t result =>
        (ends_iff t result).trans (Race.iff_of_later none htime)

/-- A call that was given up is over in its turn. -/
theorem step_of_cancelled (h : Outlook c w x moment n c'.stage) (htime : ¬ InTime moment n)
    (hcancelled : c'.cancelled = true) (haddress : c'.address w' = c.address w) :
    Outlook c w x moment (n + 1) (c'.step w').2.1.stage := by
  generalize hstage : c'.stage = stage at h
  cases h with
  | asking _ ends_iff | sending _ _ ends_iff | reading _ _ _ _ ends_iff =>
    rw [MetadataCall.step_of_cancelled hcancelled (by rw [hstage]; nofun) (by rw [hstage]; nofun)]
    have hover := Outlook.of_late htime ends_iff
    rw [← haddress] at hover
    exact hover
  | ended _ turn last before ends_iff =>
    rw [step_of_over hstage, hstage]
    exact .ended (n + 1) turn last (Nat.lt_succ_of_lt before) ends_iff

/-- **A turn changes nothing about the end.** -/
theorem step (h : Outlook c w x moment n c'.stage)
    (hcancelled : c'.cancelled = true ↔ ¬ InTime moment n) (hname : c'.name = c.name)
    (haddress : c'.address w' = c.address w)
    (hsend : ∀ request, c'.stage = .asking request → (w'.send request).1 = x) :
    Outlook c w x moment (n + 1) (c'.step w').2.1.stage := by
  by_cases htime : InTime moment n
  · have hgoing : c'.cancelled = false := Bool.eq_false_iff.2 fun h => hcancelled.1 h htime
    generalize hstage : c'.stage = stage at h
    cases h with
    | asking request ends_iff =>
      rw [step_of_asking hstage hgoing]
      obtain rfl := hsend request hstage
      exact .sending 2 _ fun t result => (ends_iff t result).trans (Race.iff_of_now htime)
    | sending _ x' ends_iff =>
      obtain ⟨waits, answer⟩ := x'
      match waits with
      | none =>
        rw [step_of_pending hstage hgoing rfl]
        exact .sending (n + 1) _ fun t result =>
          (ends_iff t result).trans (Race.iff_of_later none htime)
      | some (k + 1) =>
        rw [step_of_pending hstage hgoing rfl]
        exact .sending (n + 1) _ fun t result =>
          (ends_iff t result).trans (Race.iff_of_later (some k) htime)
      | some 0 =>
        rw [step_of_ready hstage hgoing rfl]
        exact .answered haddress hname fun t result =>
          (ends_iff t result).trans (Race.iff_of_now htime)
    | reading _ etag rest collected ends_iff =>
      rw [step_of_reading hstage hgoing]
      exact .read hname htime ends_iff
    | ended _ turn last before ends_iff =>
      rw [step_of_over hstage, hstage]
      exact .ended (n + 1) turn last (Nat.lt_succ_of_lt before) ends_iff
  · exact h.step_of_cancelled htime (hcancelled.2 htime) haddress

/-- A call that waits has not ended before. -/
theorem not_ended {result : Except Error RemoteMetadata}
    (ends_iff : ∀ t result, c.Ends w x moment t result ↔
      Race (c.address w) moment n delay next t result)
    (hnext : ∀ turn t result, next turn t result → turn ≤ t) :
    ¬ ∃ t < n, c.Ends w x moment t result := by
  rintro ⟨t, ht, hends⟩
  exact Nat.not_le.2 ht (((ends_iff t result).1 hends).le hnext)

end Outlook

/-! ## All turns -/

section After

variable (hstage : c.stage = .start)
  (hothers : ∀ n w, (others n w).client.uplink = w.client.uplink)
  (hexchange : ∀ request, c.draft w = .ok request →
    ((c.after w moment others 1).2.send request).1 = x)

include hstage in
/-- After the first turn the request is refused, or goes out next. -/
theorem after_one_stage : (c.after w moment others 1).1.stage =
    match c.draft w with
    | .error e => .over (.error e)
    | .ok request => .asking request := by
  change ((c.inTurn moment 0).step w).2.1.stage = _
  rw [step_of_start (c := c.inTurn moment 0) hstage, prepare_stage]
  rfl

include hstage in
/-- A call that has the network to itself has its request answered as it would be at once. -/
theorem exchange_of_quiet (hquiet : ∀ n w, (others n w).network = w.network) (request : Request) :
    ((c.after w moment others 1).2.send request).1 = (w.network.send request).1 := by
  have hstep := step_of_start (c := c.inTurn moment 0) (w := w) hstage
  have hnetwork : (c.after w moment others 1).2.network = w.network := by
    change (others 0 ((c.inTurn moment 0).step w).2.2).network = _
    rw [hquiet, hstep]
    exact ((c.inTurn moment 0).prepare_cases w).1.network_eq
  change ((c.after w moment others 1).2.network.send request).1 = _
  rw [hnetwork]

variable (c w moment) in
include hothers in
/-- No turn changes what is asked for, or of whom. -/
theorem after_keeps (n : Nat) :
    (c.after w moment others n).1.name = c.name ∧
      (c.after w moment others n).2.client.uplink = w.client.uplink := by
  induction n with
  | zero => exact ⟨rfl, rfl⟩
  | succ n ih =>
    obtain ⟨hname, -, huplink⟩ := step_keeps
      ((c.after w moment others n).1.inTurn moment n) (c.after w moment others n).2
    exact ⟨hname.trans ih.1, (hothers n _).trans (huplink.trans ih.2)⟩

include hstage hothers hexchange in
/-- **Every turn tells of the same end.** -/
theorem outlook_after (n : Nat) :
    Outlook c w x moment (n + 1) (c.after w moment others (n + 1)).1.stage := by
  induction n with
  | zero =>
    rw [after_one_stage hstage]
    cases hrequest : c.draft w with
    | error e => exact .ended 1 0 _ Nat.one_pos fun t result => ends_iff_of_refused hrequest
    | ok request => exact .asking request fun t result => ends_iff_of_cleared hrequest
  | succ n ih =>
    obtain ⟨hname, huplink⟩ := after_keeps c w moment hothers (n + 1)
    change Outlook c w x moment (n + 2) (((c.after w moment others (n + 1)).1.inTurn moment
      (n + 1)).step (c.after w moment others (n + 1)).2).2.1.stage
    refine Outlook.step ih (cancelled_inTurn _ moment (n + 1)) hname
      (address_congr hname huplink) fun request hrequest => ?_
    have hfirst : n = 0 := by
      change (c.after w moment others (n + 1)).1.stage = _ at hrequest
      rw [hrequest] at ih
      generalize hn : n + 1 = k at ih
      cases ih
      exact Nat.succ.inj hn
    subst hfirst
    refine hexchange request ?_
    have hrequest : (c.after w moment others 1).1.stage = .asking request := hrequest
    rw [after_one_stage hstage] at hrequest
    split at hrequest <;> cases hrequest
    assumption

include hstage hothers hexchange in
/-- **A call is over exactly from the turn on that was told**, and with what was told. -/
theorem over_iff_ends (n : Nat) (result : Except Error RemoteMetadata) :
    (c.after w moment others n).1.stage = .over result ↔ ∃ t < n, c.Ends w x moment t result := by
  cases n with
  | zero =>
    have hstart : (c.after w moment others 0).1.stage = .start := hstage
    rw [hstart]
    simp
  | succ n =>
    have houtlook := outlook_after hstage hothers hexchange n
    generalize hn : n + 1 = turn at houtlook ⊢
    generalize (c.after w moment others turn).1.stage = stage at houtlook ⊢
    cases houtlook with
    | asking _ ends_iff =>
      exact iff_of_false nofun <| Outlook.not_ended ends_iff fun _ _ _ hrace =>
        Nat.le_of_succ_le (hrace.le fun _ _ _ => AtAnswer.le)
    | sending _ _ ends_iff =>
      exact iff_of_false nofun <| Outlook.not_ended ends_iff fun _ _ _ => AtAnswer.le
    | reading _ _ _ _ ends_iff =>
      exact iff_of_false nofun <| Outlook.not_ended ends_iff fun _ _ _ => AtEnd.le
    | ended _ last result' before ends_iff =>
      constructor
      · intro hover
        cases hover
        exact ⟨last, before, (ends_iff _ _).2 ⟨rfl, rfl⟩⟩
      · rintro ⟨t, -, hends⟩
        rw [((ends_iff t result).1 hends).2]

include hstage hothers hexchange in
/-- **A call comes to the end of the first stage that fails**, and to no other: whenever it is given
up, and whatever happens to the client between its turns.  It comes to an end unless it waits for
ever; it has a document if and only if all went well to the end of the body; and if anything stands
against its request, none is ever sent. -/
theorem ends_with_first_failure :
    (∀ n result, (c.after w moment others n).1.stage = .over result ↔
      ∃ t < n, c.Ends w x moment t result) ∧
    (moment.isSome ∨ x.waits.isSome →
      (∀ r, x.answer = .ok r → moment.isSome ∨ (c.body w r).delay.isSome) →
      ∃ n result, (c.after w moment others n).1.stage = .over result) ∧
    (∀ m, (∃ n, (c.after w moment others n).1.stage = .over (.ok m)) ↔
      ∃ k r d, c.Reads w x moment k r d .ends ∧
        Package.decode (c.body w r).chunks.flatten = some m.package ∧ m.etag = r.etag) ∧
    ∀ e, c.Refused w e → ∀ n,
      (Operation.metadata ((c.after w moment others n).1.inTurn moment n)).sends
        (c.after w moment others n).2 = none := by
  have hover := over_iff_ends hstage hothers hexchange
  have hall (result) : (∃ n, (c.after w moment others n).1.stage = .over result) ↔
      ∃ t, c.Ends w x moment t result := by
    simp only [hover]
    exact ⟨fun ⟨_, t, _, h⟩ => ⟨t, h⟩, fun ⟨t, h⟩ => ⟨t + 1, t, Nat.lt_succ_self t, h⟩⟩
  refine ⟨hover, fun hanswer hbody => ?_, fun m => (hall _).trans ends_ok_iff, ?_⟩
  · obtain ⟨t, result, hends⟩ := exists_ends hanswer hbody
    obtain ⟨n, hn⟩ := (hall result).2 ⟨t, hends⟩
    exact ⟨n, result, hn⟩
  · intro e hrefused n
    cases n with
    | zero =>
      have hstart : ((c.after w moment others 0).1.inTurn moment 0).stage = .start := hstage
      rw [Operation.sends, hstart]
    | succ n =>
      have hdone : ((c.after w moment others (n + 1)).1.inTurn moment (n + 1)).stage =
          .over (.error e) := (hover (n + 1) _).2 ⟨0, Nat.succ_pos n, .refused e hrefused⟩
      rw [Operation.sends, hdone]

end After

/-- An answer that has to be waited for, with a body that comes in parts. -/
def slow : Exchange where
  waits := some 1
  answer := .ok {
    status := 200
    body := [.chunk (Utf8.encode "\x7b\"name\":"), .wait, .chunk (Utf8.encode "\"p\"\x7d")] }

/-- A client whose requests get this answer. -/
def slowWorld : World where
  client := { Client.guardedClient with
    uplink := { Client.guarded with baseUrl := "http://[::1]" } }
  network := { answers := fun _ => slow }

/-- The headers of a request are nothing to its address. -/
theorem target?_eq (url : String) (headers : Headers) :
    Request.target? { url, headers } = Request.target? { url } := by
  rw [Request.target?, Request.target?]

/-- Time passes. -/
def tick (_ : Nat) (w : World) : World := { w with clock := w.clock + 1 }

theorem exchange_slow {request : Request}
    (hrequest : draft { name := "p" } slowWorld = .ok request) :
    ((after { name := "p" } slowWorld none tick 1).2.send request).1 = slow := by
  obtain ⟨headers, rfl⟩ := exists_of_draft_eq_ok hrequest
  have htarget : (Request.target? {
      url := address { name := "p" } slowWorld, headers }).isSome = true := by
    rw [target?_eq]
    decide +kernel
  have hstage : stage { name := "p" } = .start := rfl
  have hquiet (n : Nat) (w : World) : (tick n w).network = w.network := rfl
  rw [exchange_of_quiet hstage hquiet, Network.send, if_pos htarget]
  rfl

/-- The document of an answer that is slow, with time passing between the turns. -/
theorem ends_with_first_failure_slow :
    (∀ request, draft { name := "p" } slowWorld = .ok request →
      ((after { name := "p" } slowWorld none tick 1).2.send request).1 = slow) ∧
    ∃ m n, (after { name := "p" } slowWorld none tick n).1.stage = .over (.ok m) ∧
      m.package.name = "p" := by
  have hcleared : ∃ request, draft { name := "p" } slowWorld = .ok request := ⟨_, rfl⟩
  obtain ⟨package, hdecodes, hname⟩ :
      ∃ package, Package.decode (Utf8.encode "\x7b\"name\":\"p\"\x7d") = some package ∧
        package.name = "p" := ⟨_, rfl, rfl⟩
  have hstage : stage { name := "p" } = .start := rfl
  have hothers (n : Nat) (w : World) : (tick n w).client.uplink = w.client.uplink := rfl
  obtain ⟨-, -, hfetched, -⟩ := ends_with_first_failure hstage hothers fun _ => exchange_slow
  obtain ⟨n, hn⟩ := (hfetched { package, etag := none }).2 ⟨1, _, 3,
    ⟨⟨hcleared, rfl, nofun, rfl⟩, rfl, rfl, rfl, nofun⟩, hdecodes, rfl⟩
  exact ⟨fun _ => exchange_slow, _, n, hn, hname⟩

end MetadataCall

end RegistryProxy
