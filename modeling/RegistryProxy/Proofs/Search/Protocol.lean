import Mathlib.Logic.Function.Iterate
import RegistryProxy.Proofs.Search.Chunking
import RegistryProxy.Proofs.Search.Transcript
import RegistryProxy.Proofs.Transfer.Transcript

/-!
# Proofs/Search/Protocol — how a search tells its results, its failure and its end

A search tells results, then at most one failure, and then that it is over.  Whatever is seen of it
is seen of one of its steps (`exists_step`), so what stands around a question to the body, or around
a failure, is told by that step alone.  What was seen tells what is seen next: a search that goes on
tells the next result that it has, or else asks its body (`nextSights`); one that was given up, or
is closed, asks nothing, and what it will tell (`owed`) comes one by one (`seen_of_deaf`).
-/

namespace RegistryProxy

namespace Results

variable {r : Results} {w : Watch} {body : Body} {moves earlier : List Move}

/-! ## What is seen is seen of a step -/

/-- **The step of which something is seen**, `pre` before it and `post` behind it; `front` and
`back` are seen in the whole run before it and behind it. -/
structure Occasion (body : Body) (moves : List Move) (front : List Sight) (s : Sight)
    (back : List Sight) (earlier : List Move) (pre post : List Sight) : Prop where
  /-- The step is one of the run. -/
  moves_eq : earlier ++ [.ask] <+: moves
  /-- What is seen of the step. -/
  sights_eq : (watch body earlier).results.sights = pre ++ s :: post
  /-- What is seen before. -/
  front_eq : front = (watch body earlier).seen ++ pre
  /-- What is seen behind it of the step is seen behind it in the run. -/
  post_prefix : post <+: back

theorem Occasion.mono {front back more : List Sight} {s : Sight} {later : List Move}
    {pre post : List Sight} (h : Occasion body moves front s back earlier pre post) :
    Occasion body (moves ++ later) front s (back ++ more) earlier pre post where
  moves_eq := h.moves_eq.trans (List.prefix_append ..)
  sights_eq := h.sights_eq
  front_eq := h.front_eq
  post_prefix := h.post_prefix.trans (List.prefix_append ..)

/-- **Whatever is seen is seen of one step.** -/
theorem exists_step {front back : List Sight} {s : Sight}
    (h : (watch body moves).seen = front ++ s :: back) :
    ∃ earlier pre post, Occasion body moves front s back earlier pre post := by
  induction moves using List.reverseRecOn generalizing back with
  | nil => simp [watch] at h
  | append_singleton moves m ih =>
    rw [watch_concat] at h
    by_cases hstays : ((watch body moves).act m).seen = (watch body moves).seen
    · obtain ⟨earlier, pre, post, hstep⟩ := ih (hstays.symm.trans h)
      exact ⟨earlier, pre, post, List.append_nil back ▸ hstep.mono⟩
    obtain ⟨rfl, hact⟩ : m = .ask ∧ ((watch body moves).act m).seen =
        (watch body moves).seen ++ (watch body moves).results.sights := by
      cases m with
      | cancel => exact absurd rfl hstays
      | ask =>
        cases hended : (watch body moves).ended with
        | true => exact absurd (by rw [Watch.act, if_pos hended]) hstays
        | false => exact ⟨rfl, by rw [act_ask hended]⟩
    rcases List.append_eq_append_iff.1 (hact.symm.trans h) with
      ⟨pre, hfront, hsights⟩ | ⟨rest, hseen, hback⟩
    · exact ⟨moves, pre, back, List.prefix_rfl, hsights, hfront, List.prefix_rfl⟩
    · cases rest with
      | nil =>
        rw [List.append_nil] at hseen
        exact ⟨moves, [], back, List.prefix_rfl, hback.symm, by rw [hseen, List.append_nil],
          List.prefix_rfl⟩
      | cons s' rest =>
        obtain ⟨rfl, rfl⟩ := List.cons.inj hback
        obtain ⟨earlier, pre, post, hstep⟩ := ih hseen
        exact ⟨earlier, pre, post, hstep.mono⟩

/-- A step does not give a search up, and does not take that back. -/
theorem cancelled_step (r : Results) : r.step.2.cancelled = r.cancelled := by
  have hstepped := r.stepped_step
  generalize r.step = x at hstepped
  generalize r.sights = more at hstepped
  cases hstepped <;> rfl

theorem cancelled_watch (body : Body) (moves : List Move) :
    (watch body moves).results.cancelled = true ↔ .cancel ∈ moves := by
  induction moves using List.reverseRecOn with
  | nil => exact iff_of_false Bool.false_ne_true List.not_mem_nil
  | append_singleton moves m ih =>
    rw [watch_concat, List.mem_append, ← ih]
    cases m with
    | cancel => exact iff_of_true rfl (.inr (List.mem_singleton_self _))
    | ask =>
      have hkept : ((watch body moves).act .ask).results.cancelled =
          (watch body moves).results.cancelled := by
        rw [Watch.act]
        split
        · rfl
        · exact cancelled_step _
      simp [hkept]

/-! ## The answers of the body -/

/-- What is left of a body that was asked so many times. -/
def restOf (body : Body) (n : Nat) : Body := (fun rest : Body => rest.poll.2)^[n] body

/-- **What a body answers** when it is asked so many times. -/
def answersOf (body : Body) (n : Nat) : List (Poll (Option (Except Error Bytes))) :=
  (List.range n).map fun k => (restOf body k).poll.1

/-- What the body was seen to answer, in order. -/
def askedOf (seen : List Sight) : List (Poll (Option (Except Error Bytes))) :=
  seen.filterMap fun
    | .asked answer => some answer
    | _ => none

/-- A step asks the body once, or not at all. -/
theorem Stepped.asks {x : Step × Results} {more : List Sight} (h : Stepped r x more) :
    (askedOf more = [] ∧ x.2.body = r.body) ∨
      (askedOf more = [r.body.poll.1] ∧ x.2.body = r.body.poll.2) := by
  cases h with
  | hands | «over» | givesUp => exact .inl ⟨rfl, rfl⟩
  | waits _ _ hpoll | ends _ _ hpoll | takes _ _ _ _ _ hpoll | fails _ _ _ _ hpoll =>
    rw [hpoll]
    exact .inr ⟨rfl, rfl⟩

/-- **The answers are those of the body**, one after the other. -/
theorem answers_watch (body : Body) (moves : List Move) :
    ∃ n, askedOf (watch body moves).seen = answersOf body n ∧
      (watch body moves).results.body = restOf body n := by
  induction moves using List.reverseRecOn with
  | nil => exact ⟨0, rfl, rfl⟩
  | append_singleton moves m ih =>
    obtain ⟨n, hasked, hbody⟩ := ih
    rw [watch_concat]
    cases m with
    | cancel => exact ⟨n, hasked, hbody⟩
    | ask =>
      cases hended : (watch body moves).ended with
      | true =>
        rw [Watch.act, if_pos hended]
        exact ⟨n, hasked, hbody⟩
      | false =>
        rw [act_ask hended, askedOf, List.filterMap_append]
        change ∃ n, askedOf _ ++ askedOf _ = _ ∧ _
        rcases (stepped_step (watch body moves).results).asks with ⟨hnone, hsame⟩ | ⟨hone, hrest⟩
        · exact ⟨n, by rw [hnone, List.append_nil, hasked], hsame.trans hbody⟩
        · refine ⟨n + 1, ?_, ?_⟩
          · rw [hone, hasked, hbody, answersOf, answersOf, List.range_succ, List.map_append]
            rfl
          · rw [hrest, hbody, restOf, restOf, Function.iterate_succ_apply']

/-! ## A search that asks its body nothing more -/

/-- **What a search that is closed or given up will tell** before it is over. -/
def owed (r : Results) : List (Except Error SearchResult) :=
  r.queue.map .ok ++ if r.finished then [] else [.error givenUp]

theorem acts_of_ended (hended : w.ended = true) (moves : List Move) :
    (moves.foldl Watch.act w).seen = w.seen := by
  induction moves generalizing w with
  | nil => rfl
  | cons m rest ih =>
    cases m with
    | cancel => exact ih (w := w.act .cancel) hended
    | ask =>
      rw [List.foldl_cons, Watch.act, if_pos hended]
      exact ih hended

/-- **Such a search tells what it owes, one by one, and then that it is over.** -/
theorem seen_of_deaf (hdeaf : w.results.finished = true ∨ w.results.cancelled = true)
    (hended : w.ended = false) (moves : List Move) :
    (moves.foldl Watch.act w).seen =
      w.seen ++ (w.results.owed.map Sight.told ++ [Sight.over]).take (moves.count Move.ask) := by
  induction moves generalizing w with
  | nil => simp
  | cons m rest ih =>
    cases m with
    | cancel =>
      rw [List.foldl_cons, List.count_cons_of_ne (by decide)]
      exact ih (w := w.act .cancel) (.inr rfl) hended
    | ask =>
      have hstepped := stepped_step w.results
      rw [List.foldl_cons, List.count_cons_self, act_ask hended]
      generalize w.results.step = x at hstepped
      generalize w.results.sights = more at hstepped
      cases hstepped with
      | hands found queue hfront =>
        refine (ih (w := ⟨{ w.results with queue }, _, false⟩) hdeaf rfl).trans ?_
        rw [owed, owed, hfront, List.append_assoc]
        rfl
      | «over» hqueue hfinished =>
        refine (acts_of_ended rfl rest).trans ?_
        rw [owed, hqueue, hfinished]
        simp
      | givesUp hqueue hfinished =>
        refine (ih (.inl rfl) rfl).trans ?_
        rw [owed, owed, hqueue, hfinished, List.append_assoc]
        rfl
      | waits _ hhungry | ends _ hhungry | takes _ _ _ _ hhungry | fails _ _ _ hhungry =>
        rw [hhungry.finished_eq, hhungry.cancelled_eq] at hdeaf
        simp at hdeaf

/-! ## Asking for the next item -/

/-- What an answer of `next` is seen as. -/
def answered : Poll (Option (Except Error SearchResult)) → List Sight
  | .pending => []
  | .ready none => [.over]
  | .ready (some value) => [.told value]

/-- So many steps from a watched search lead to this answer and these results; but for the answer,
only questions to the body are seen of them. -/
def Answers (w : Watch) (x : Poll (Option (Except Error SearchResult)) × Results) : Prop :=
  ∃ (n : Nat) (asked : List (Poll (Option (Except Error Bytes)))),
    ((List.replicate (n + 1) Move.ask).foldl Watch.act w).results = x.2 ∧
      ((List.replicate (n + 1) Move.ask).foldl Watch.act w).seen =
        w.seen ++ asked.map .asked ++ answered x.1

/-- One step, and the answer is there. -/
theorem Answers.of_last {seen : List Sight} {ended : Bool}
    {answer : Poll (Option (Except Error SearchResult))} (hact : w.act .ask = ⟨r, seen, ended⟩)
    (asked : List (Poll (Option (Except Error Bytes))))
    (hseen : seen = w.seen ++ (asked.map .asked ++ answered answer)) : Answers w (answer, r) := by
  refine ⟨0, asked, congrArg Watch.results hact, (congrArg Watch.seen hact).trans ?_⟩
  rw [hseen, List.append_assoc]

/-- One step more, which asks the body. -/
theorem Answers.of_goOn {w' : Watch} {x : Poll (Option (Except Error SearchResult)) × Results}
    {answer : Poll (Option (Except Error Bytes))} (hact : w.act .ask = w')
    (hseen : w'.seen = w.seen ++ [.asked answer]) (h : Answers w' x) : Answers w x := by
  subst hact
  obtain ⟨n, asked, hresults, hrest⟩ := h
  refine ⟨n + 1, answer :: asked, hresults, ?_⟩
  rw [hseen] at hrest
  rw [List.replicate_succ, List.foldl_cons, hrest]
  simp

/-- **Asking for the next item is asking for so many steps.** -/
theorem answers_nextWithin {fuel : Nat} (hfuel : w.results.weight < fuel)
    (hended : w.ended = false) : Answers w (nextWithin fuel w.results) := by
  induction fuel generalizing w with
  | zero => exact absurd hfuel (Nat.not_lt_zero _)
  | succ fuel ih =>
    have hstepped := stepped_step w.results
    have hact := act_ask hended
    rw [nextWithin]
    generalize w.results.step = x at hstepped hact
    generalize w.results.sights = more at hstepped hact
    cases hstepped with
    | hands | «over» | givesUp => exact .of_last hact [] rfl
    | waits => exact .of_last hact [.pending] rfl
    | fails body answer => exact .of_last hact [.ready answer] rfl
    | ends body hhungry hpoll =>
      refine .of_goOn hact rfl (ih ?_ rfl)
      have hlength := Body.length_of_poll_end hpoll
      simp only [weight, hhungry.finished_eq] at hfuel ⊢
      simp at hfuel ⊢
      omega
    | takes body chunk found scanner hhungry hpoll =>
      refine .of_goOn hact rfl (ih ?_ rfl)
      have hlength := Body.length_of_poll_chunk hpoll
      simp only [weight, hhungry.finished_eq] at hfuel ⊢
      omega

theorem answers_next (hended : w.ended = false) : Answers w w.results.next := by
  refine answers_nextWithin ?_ hended
  rw [weight, patience]
  split <;> omega

/-! ## The protocol -/

/-- A question to the body is the first thing seen of a step, and a failure that its answer brings
is the other. -/
theorem Occasion.asked {front back pre post : List Sight}
    {answer : Poll (Option (Except Error Bytes))}
    (h : Occasion body moves front (.asked answer) back earlier pre post) :
    (watch body earlier).results.Hungry ∧ pre = [] ∧
      ∀ a e, answer = .ready a → (watch body earlier).results.Trips e a →
        post = [.told (.error e)] := by
  have hstepped := stepped_step (watch body earlier).results
  have hsights := h.sights_eq
  generalize (watch body earlier).results.step = x at hstepped
  generalize (watch body earlier).results.sights = more at hstepped hsights
  cases hstepped with
  | hands | «over» | givesUp => rcases pre with _ | ⟨s, pre⟩ <;> simp at hsights
  | waits body' hhungry =>
    obtain ⟨rfl, ⟨⟩, rfl⟩ : pre = [] ∧ answer = .pending ∧ post = [] := by
      rcases pre with _ | ⟨s, pre⟩ <;> simp_all
    exact ⟨hhungry, rfl, nofun⟩
  | ends body' hhungry _ hend =>
    obtain ⟨rfl, rfl, rfl⟩ : pre = [] ∧ answer = .ready none ∧ post = [] := by
      rcases pre with _ | ⟨s, pre⟩ <;> simp_all
    refine ⟨hhungry, rfl, ?_⟩
    rintro a e ⟨⟩ htrips
    exact absurd htrips.1 (by simp [hend])
  | takes body' chunk found scanner hhungry _ hfeed =>
    obtain ⟨rfl, rfl, rfl⟩ : pre = [] ∧ answer = .ready (some (.ok chunk)) ∧ post = [] := by
      rcases pre with _ | ⟨s, pre⟩ <;> simp_all
    refine ⟨hhungry, rfl, ?_⟩
    rintro a e ⟨⟩ htrips
    cases hfeed.symm.trans htrips
  | fails body' answer' e' hhungry _ htrips =>
    obtain ⟨rfl, rfl, rfl⟩ :
        pre = [] ∧ answer = .ready answer' ∧ post = [.told (.error e')] := by
      rcases pre with _ | ⟨s, _ | ⟨s', pre⟩⟩ <;> simp_all
    refine ⟨hhungry, rfl, ?_⟩
    rintro a e ⟨⟩ htrips'
    rw [Trips.unique htrips htrips']

/-- A failure is the last thing seen of a step. -/
theorem Occasion.failed {front back pre post : List Sight} {e : Error}
    (h : Occasion body moves front (.told (.error e)) back earlier pre post) :
    (∃ answer, pre = [.asked (.ready answer)] ∧ (watch body earlier).results.Hungry ∧
      (watch body earlier).results.Trips e answer) ∨
      pre = [] ∧ e = givenUp ∧ (watch body earlier).results.cancelled = true := by
  have hstepped := stepped_step (watch body earlier).results
  have hsights := h.sights_eq
  generalize (watch body earlier).results.step = x at hstepped
  generalize (watch body earlier).results.sights = more at hstepped hsights
  cases hstepped with
  | hands | «over» | waits | ends | takes => rcases pre with _ | ⟨s, pre⟩ <;> simp at hsights
  | givesUp _ _ hcancelled =>
    rcases pre with _ | ⟨s, pre⟩ <;> simp at hsights
    exact .inr ⟨rfl, hsights.1.symm, hcancelled⟩
  | fails body' answer e' hhungry _ htrips =>
    obtain ⟨rfl, rfl⟩ : pre = [.asked (.ready answer)] ∧ e' = e := by
      rcases pre with _ | ⟨s, _ | ⟨s', pre⟩⟩ <;> simp_all
    exact .inl ⟨answer, rfl, hhungry, htrips⟩

/-- What is told right behind an answer of the body: the failure that it brings. -/
def toldBehind (before : List Bytes) : Poll (Option (Except Error Bytes)) → List Sight
  | .pending => []
  | .ready answer => (Scanner.failureOf before answer).toList.map fun e => .told (.error e)

/-- What is seen of the next step of a search that goes on. -/
def nextSights (w : Watch) : List Sight :=
  match untold w.seen with
  | found :: _ => [.told (.ok found)]
  | [] => .asked w.results.body.poll.1 :: toldBehind (chunksOf w.seen) w.results.body.poll.1

theorem Going.failureOf_eq_none (h : Going w) {answer : Option (Except Error Bytes)}
    (hnot : ∀ e, ¬ w.results.Trips e answer) :
    Scanner.failureOf (chunksOf w.seen) answer = none :=
  Option.eq_none_iff_forall_ne_some.2 fun e he => hnot e (h.trips_iff.2 he)

/-- **A search that goes on** tells a result that it has, or else asks its body. -/
theorem Going.sights_eq (h : Going w) (hcancelled : w.results.cancelled = false) :
    w.results.sights = nextSights w := by
  have hstepped := stepped_step w.results
  generalize w.results.step = x at hstepped
  rw [nextSights, h.untold_eq]
  generalize w.results.sights = more at hstepped
  cases hstepped with
  | hands found queue hfront => rw [hfront]
  | «over» _ hfinished => exact absurd hfinished (by simp [h.finished_eq])
  | givesUp _ _ hgiven => exact absurd hgiven (by simp [hcancelled])
  | waits body hhungry hpoll =>
    rw [hhungry.queue_eq, hpoll]
    rfl
  | ends body hhungry hpoll hend =>
    have hnone : Scanner.failureOf (chunksOf w.seen) none = none :=
      h.failureOf_eq_none fun e htrips => absurd htrips.1 (by simp [hend])
    rw [hhungry.queue_eq, hpoll]
    simp only [toldBehind, hnone]
    rfl
  | takes body chunk found scanner hhungry hpoll hfeed =>
    have hnone : Scanner.failureOf (chunksOf w.seen) (some (.ok chunk)) = none :=
      h.failureOf_eq_none fun e htrips => by cases hfeed.symm.trans htrips
    rw [hhungry.queue_eq, hpoll]
    simp only [toldBehind, hnone]
    rfl
  | fails body answer e hhungry hpoll htrips =>
    rw [hhungry.queue_eq, hpoll]
    simp only [toldBehind, h.trips_iff.1 htrips]
    rfl

/-- **The protocol of a search** that was moved to do `moves`. -/
structure Protocol (body : Body) (moves : List Move) : Prop where
  /-- What is told are results of the chunks that were taken, in order, and then at most one
  failure; with a failure, or the end, all results of these chunks were told. -/
  items : ∃ found failed, toldOf (watch body moves).seen = Scanner.items found failed ∧
    found <+: Scanner.decoded (chunksOf (watch body moves).seen) ∧
    (failed ≠ none ∨ .over ∈ (watch body moves).seen →
      found = Scanner.decoded (chunksOf (watch body moves).seen))
  /-- That it is over is the last thing. -/
  over_last : ∀ front back, (watch body moves).seen = front ++ .over :: back → back = []
  /-- The search has ended if and only if it was seen to tell that it is over. -/
  ended_iff : (watch body moves).ended = true ↔ .over ∈ (watch body moves).seen
  /-- The body answers as it does by itself, and has been asked no more than was seen. -/
  answers : ∃ n, askedOf (watch body moves).seen = answersOf body n ∧
    (watch body moves).results.body = restOf body n
  /-- The body is not asked after a failure or after its end, nor before all results of the chunks
  that were taken are told; and the failure that its answer brings is told at once. -/
  asked : ∀ front answer back, (watch body moves).seen = front ++ .asked answer :: back →
    ¬ Settled front ∧ toldOf front = (Scanner.decoded (chunksOf front)).map .ok ∧
      ∀ a e, answer = .ready a → Scanner.failureOf (chunksOf front) a = some e →
        ∃ rest, back = .told (.error e) :: rest
  /-- A failure is the one that the answer right before it brings, or it says that somebody gave the
  search up. -/
  failures : ∀ front e back, (watch body moves).seen = front ++ .told (.error e) :: back →
    (∃ before answer, front = before ++ [.asked (.ready answer)] ∧
      Scanner.failureOf (chunksOf before) answer = some e) ∨ e = givenUp ∧ .cancel ∈ moves
  /-- A search that nobody gave up tells the next result that it has, or else asks its body. -/
  goes_on : ¬ Settled (watch body moves).seen → .cancel ∉ moves →
    (watch body (moves ++ [.ask])).seen = (watch body moves).seen ++ nextSights (watch body moves)
  /-- After a failure or the end of the body nothing is seen but, once, that it is over. -/
  closes : Settled (watch body moves).seen → ∀ later,
    (watch body (moves ++ later)).seen = (watch body moves).seen ++
      if (watch body moves).ended then [] else [Sight.over].take (later.count .ask)
  /-- A search that is given up asks its body nothing more: it tells, one by one, the other results
  of the chunks that it took, that it was given up, and that it is over. -/
  gives_up : ¬ Settled (watch body moves).seen → ∀ later,
    (watch body (moves ++ .cancel :: later)).seen = (watch body moves).seen ++
      (((untold (watch body moves).seen).map fun found => Sight.told (.ok found)) ++
        [Sight.told (.error givenUp), Sight.over]).take (later.count Move.ask)
  /-- To ask for the next item is to ask for so many steps. -/
  next : (watch body moves).ended = false →
    Answers (watch body moves) (watch body moves).results.next

/-- **Every search keeps to the protocol**, whatever its body does and whenever it is given up. -/
theorem search_protocol (body : Body) (moves : List Move) : Protocol body moves where
  items := by
    cases sound_watch body moves with
    | closed h =>
      obtain ⟨failed, htold⟩ := h.told_eq
      exact ⟨_, failed, htold, List.prefix_rfl, fun _ => rfl⟩
    | going h =>
      obtain ⟨found, rest, hdecoded, htold, -⟩ := List.map_eq_append_iff.1 h.told_eq.symm
      refine ⟨found, none, by simp [Scanner.items, htold], ⟨rest, hdecoded.symm⟩, ?_⟩
      rintro (hfailed | hover)
      · exact absurd rfl hfailed
      · exact absurd hover h.over_notMem
  over_last := by
    intro front back hseen
    cases sound_watch body moves with
    | going h => exact absurd (hseen ▸ List.mem_append_right _ List.mem_cons_self) h.over_notMem
    | closed h => exact h.eq_nil_of_over hseen
  ended_iff := (sound_watch body moves).ended_iff
  answers := answers_watch body moves
  asked := by
    intro front answer back hseen
    obtain ⟨earlier, pre, post, hstep⟩ := exists_step hseen
    obtain ⟨hhungry, rfl, htrips⟩ := hstep.asked
    obtain rfl : front = (watch body earlier).seen := hstep.front_eq.trans (List.append_nil _)
    have h := (sound_watch body earlier).going_of_hungry hhungry
    refine ⟨h.not_settled, h.told_of_hungry hhungry, ?_⟩
    intro a e hanswer hfailure
    have hpost := hstep.post_prefix
    rw [htrips a e hanswer (h.trips_iff.2 hfailure)] at hpost
    obtain ⟨rest, rfl⟩ := hpost
    exact ⟨rest, rfl⟩
  failures := by
    intro front e back hseen
    obtain ⟨earlier, pre, post, hstep⟩ := exists_step hseen
    obtain ⟨answer, rfl, hhungry, htrips⟩ | ⟨-, rfl, hcancelled⟩ := hstep.failed
    · have h := (sound_watch body earlier).going_of_hungry hhungry
      exact .inl ⟨_, answer, hstep.front_eq, h.trips_iff.1 htrips⟩
    · have hearlier := (cancelled_watch body earlier).1 hcancelled
      exact .inr ⟨rfl, hstep.moves_eq.subset (List.mem_append_left _ hearlier)⟩
  goes_on := by
    intro hsettled hnever
    have hcancelled := Bool.eq_false_iff.2 (mt (cancelled_watch body moves).1 hnever)
    cases sound_watch body moves with
    | closed h => exact absurd h.settled hsettled
    | going h => rw [watch_concat, act_ask h.ended_eq, h.sights_eq hcancelled]
  closes := by
    intro hsettled later
    rw [watch_append]
    cases sound_watch body moves with
    | going h => exact absurd hsettled h.not_settled
    | closed h =>
      cases hended : (watch body moves).ended with
      | true =>
        rw [acts_of_ended hended]
        exact (List.append_nil _).symm
      | false =>
        rw [seen_of_deaf (.inl h.finished_eq) hended, owed, h.queue_eq, h.finished_eq]
        rfl
  gives_up := by
    intro hsettled later
    rw [watch_append, List.foldl_cons]
    cases sound_watch body moves with
    | closed h => exact absurd h.settled hsettled
    | going h =>
      have hfinished : ((watch body moves).act .cancel).results.finished = false := h.finished_eq
      refine (seen_of_deaf (w := (watch body moves).act .cancel) (.inr rfl) h.ended_eq
        later).trans ?_
      rw [owed, hfinished, h.untold_eq, List.map_append, List.map_map, List.append_assoc]
      rfl
  next := answers_next

/-- A search that is given up while its body lets it wait. -/
example : (watch [.chunk [], .wait, .chunk []] [.ask, .ask, .cancel, .ask, .ask, .ask]).seen =
    [.asked (.ready (some (.ok []))), .asked .pending, .told (.error givenUp), .over] := rfl

end Results

end RegistryProxy
