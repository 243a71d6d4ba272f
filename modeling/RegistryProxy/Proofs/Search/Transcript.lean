import Mathlib.Data.List.Induction
import RegistryProxy.Proofs.Search.Response
import RegistryProxy.Search.Results

/-!
# Proofs/Search/Transcript — what a search is seen to do

A `Watch` is a search together with everything that it was seen to do: what it asked its body and
was answered, and what it told.  One step is one of seven things (`Stepped`).  While a search goes
on, what it has told and what it has complete are together the results of the chunks that it took
(`Going`); it closes once, with all of them told (`Closed`).  Each move keeps to this (`Sound.act`),
and so does every run of moves.
-/

namespace RegistryProxy

/-! ## A scanner and the chunks that it took -/

namespace Scanner

variable {s s' : Scanner} {chunks : List Bytes} {chunk : Bytes} {found : List SearchResult}
  {e : Error}

/-- **The results of chunks**, up to the one that completes an element that is no result. -/
def decoded (chunks : List Bytes) : List SearchResult := results (leading [] chunks)

/-- Why a scanner does not go on behind bytes, if it does not. -/
def stumble (bytes : Bytes) : Option Error :=
  match View.run {} bytes with
  | .error e => some e
  | .ok (_, found) => if found.all decodes then none else some undecodable

/-- **The failure that an answer of the body brings** behind chunks: its own, that of the elements
that a chunk completes, or that of a response that ends too early. -/
def failureOf (before : List Bytes) : Option (Except Error Bytes) → Option Error
  | none => failure before.flatten
  | some (.error e) => some e
  | some (.ok chunk) => stumble (before ++ [chunk]).flatten

/-- **A scanner that took chunks** and has not failed. -/
structure Follows (s : Scanner) (chunks : List Bytes) : Prop where
  /-- It has looked at everything. -/
  ready : s.Ready
  /-- It has come as far as the chunks, and their elements are results. -/
  run : ∃ found, View.run {} chunks.flatten = .ok (s.view, found) ∧ found.all decodes = true

theorem follows_empty : Follows {} [] := ⟨ready_empty, [], rfl, rfl⟩

/-- A chunk leads on if it completes results only. -/
theorem leading_concat {seen : Bytes} (h : intact (seen ++ chunks.flatten) = true)
    (chunk : Bytes) :
    leading seen (chunks ++ [chunk]) =
      if intact (seen ++ chunks.flatten ++ chunk) then seen ++ chunks.flatten ++ chunk
      else seen ++ chunks.flatten := by
  induction chunks generalizing seen with
  | nil => simp [leading]
  | cons first rest ih =>
    rw [List.flatten_cons, ← List.append_assoc] at h ⊢
    rw [List.cons_append, leading, if_pos (intact_of_append h)]
    exact ih h

namespace Follows

/-- A scanner that has not failed has met results only. -/
theorem intact (h : s.Follows chunks) : intact chunks.flatten = true := by
  obtain ⟨found, hrun, hfound⟩ := h.run
  rw [Scanner.intact, elements_of_ok hrun, hfound]

theorem decoded_eq (h : s.Follows chunks) : decoded chunks = results chunks.flatten :=
  congrArg results (leading_of_intact h.intact)

/-- A response ends well behind these chunks if and only if the scanner says so. -/
theorem failure_eq (h : s.Follows chunks) :
    failure chunks.flatten = if s.mayEnd then none else some cutShort := by
  obtain ⟨found, hrun, hfound⟩ := h.run
  rw [failure, hrun]
  dsimp only
  rw [if_pos hfound]
  rfl

/-- **A chunk that is taken** adds the results that it completes. -/
theorem feed_ok (h : s.Follows chunks) (hfeed : s.feed chunk = .ok (found, s')) :
    s'.Follows (chunks ++ [chunk]) ∧ decoded (chunks ++ [chunk]) = decoded chunks ++ found ∧
      stumble (chunks ++ [chunk]).flatten = none := by
  obtain ⟨others, hrun, hothers⟩ := h.run
  obtain ⟨htake, hready⟩ := feed_view h.ready chunk
  rw [hfeed] at htake
  have happend := View.run_append_of_ok hrun chunk
  have hflatten : (chunks ++ [chunk]).flatten = chunks.flatten ++ chunk := by simp
  cases hchunk : s.view.run chunk with
  | error e =>
    rw [View.take, hchunk] at htake
    cases htake
  | ok x =>
    obtain ⟨v, more⟩ := x
    rw [take_of_ok hchunk] at htake
    split at htake
    · next hmore =>
      obtain ⟨rfl, hview⟩ := Prod.mk.inj (Except.ok.inj htake)
      have hall : (others ++ more).all decodes = true := by
        rw [List.all_append, hothers, hmore]
        rfl
      have hnext : View.run {} (chunks ++ [chunk]).flatten = .ok (s'.view, others ++ more) := by
        rw [hflatten, happend, hchunk, hview]
        rfl
      have hfollows : s'.Follows (chunks ++ [chunk]) := ⟨hready _ _ hfeed, _, hnext, hall⟩
      refine ⟨hfollows, ?_, ?_⟩
      · rw [hfollows.decoded_eq, h.decoded_eq, results, results, elements_of_ok hnext,
          elements_of_ok hrun, List.filterMap_append]
      · rw [stumble, hnext]
        exact if_pos hall
    · cases htake

/-- **A chunk that fails** adds nothing. -/
theorem feed_error (h : s.Follows chunks) (hfeed : s.feed chunk = .error e) :
    decoded (chunks ++ [chunk]) = decoded chunks ∧
      stumble (chunks ++ [chunk]).flatten = some e := by
  obtain ⟨others, hrun, hothers⟩ := h.run
  obtain ⟨htake, -⟩ := feed_view h.ready chunk
  rw [hfeed] at htake
  have happend := View.run_append_of_ok hrun chunk
  have hflatten : (chunks ++ [chunk]).flatten = chunks.flatten ++ chunk := by simp
  have hleading : leading [] (chunks ++ [chunk]) =
      if Scanner.intact (chunks.flatten ++ chunk) then chunks.flatten ++ chunk
      else chunks.flatten := leading_concat h.intact chunk
  rw [h.decoded_eq, decoded, hleading, hflatten]
  cases hchunk : s.view.run chunk with
  | error e' =>
    rw [View.take, hchunk] at htake
    obtain rfl : e = e' := Except.error.inj htake
    rw [hchunk] at happend
    -- The brackets fail, so no element has ended before.
    have hnone := View.found_eq_nil View.settled_empty hrun hchunk
    have hresults : results (chunks.flatten ++ chunk) = results chunks.flatten := by
      rw [results, results, elements_of_error happend, elements_of_ok hrun, hnone]
    refine ⟨?_, by rw [stumble, happend]; rfl⟩
    split
    · exact hresults
    · rfl
  | ok x =>
    obtain ⟨v, more⟩ := x
    rw [take_of_ok hchunk] at htake
    split at htake
    · cases htake
    · next hmore =>
      obtain rfl : e = undecodable := Except.error.inj htake
      rw [hchunk] at happend
      have hall : ¬ (others ++ more).all decodes = true := by
        rw [List.all_append, hothers]
        exact hmore
      have hbroken : ¬ Scanner.intact (chunks.flatten ++ chunk) = true := by
        rw [Scanner.intact, elements_of_ok happend]
        exact hall
      rw [if_neg hbroken, stumble, happend]
      exact ⟨rfl, if_neg hall⟩

end Follows

end Scanner

/-! ## What is seen -/

namespace Results

/-- What can be done to a search. -/
inductive Move where
  /-- It is asked to go on, for one step. -/
  | ask
  /-- It is given up. -/
  | cancel
  deriving DecidableEq

/-- What a search is seen to do. -/
inductive Sight where
  /-- It asks its body once, and is answered. -/
  | asked (answer : Poll (Option (Except Error Bytes)))
  /-- It tells a result or a failure. -/
  | told (value : Except Error SearchResult)
  /-- It tells that it is over. -/
  | «over»

/-- What one step is seen to do. -/
def sights (r : Results) : List Sight :=
  (if r.queue.isEmpty && !r.finished && !r.cancelled then [.asked r.body.poll.1] else []) ++
    match r.step.1 with
    | .item value => [.told value]
    | .over => [.over]
    | .goOn | .wait => []

/-- Whether a step tells that the search is over. -/
def Step.isOver : Step → Bool
  | .over => true
  | .item _ | .goOn | .wait => false

/-- A search and what it was seen to do, oldest first. -/
structure Watch where
  /-- The search. -/
  results : Results
  /-- What was seen. -/
  seen : List Sight := []
  /-- Whether it told that it is over. -/
  ended : Bool := false

/-- One move; nobody asks a search that told that it is over. -/
def Watch.act (w : Watch) : Move → Watch
  | .cancel => { w with results := w.results.abort }
  | .ask =>
    if w.ended then w
    else
      { results := w.results.step.2
        seen := w.seen ++ w.results.sights
        ended := w.results.step.1.isOver }

/-- **One move after the other**, from the start of a search. -/
def watch (body : Body) (moves : List Move) : Watch :=
  moves.foldl Watch.act { results := { body } }

/-- The chunks that were taken, in order. -/
def chunksOf (seen : List Sight) : List Bytes :=
  seen.filterMap fun
    | .asked (.ready (some (.ok chunk))) => some chunk
    | _ => none

/-- What was told but the end, in order. -/
def toldOf (seen : List Sight) : List (Except Error SearchResult) :=
  seen.filterMap fun
    | .told value => some value
    | _ => none

/-- Whether a failure was told, or the end of the body was met. -/
def Settled (seen : List Sight) : Prop :=
  .asked (.ready none) ∈ seen ∨ ∃ e, .told (.error e) ∈ seen

variable {r : Results} {w : Watch} {body : Body} {moves : List Move} {seen : List Sight}

theorem chunksOf_append (seen more : List Sight) :
    chunksOf (seen ++ more) = chunksOf seen ++ chunksOf more := List.filterMap_append

theorem toldOf_append (seen more : List Sight) :
    toldOf (seen ++ more) = toldOf seen ++ toldOf more := List.filterMap_append

theorem settled_append_iff {more : List Sight} :
    Settled (seen ++ more) ↔ Settled seen ∨ Settled more := by
  simp only [Settled, List.mem_append, exists_or]
  exact or_or_or_comm

/-- The last move is made last. -/
theorem watch_concat (body : Body) (moves : List Move) (m : Move) :
    watch body (moves ++ [m]) = (watch body moves).act m := by
  rw [watch, List.foldl_append]
  rfl

theorem watch_append (body : Body) (moves later : List Move) :
    watch body (moves ++ later) = later.foldl Watch.act (watch body moves) := List.foldl_append

theorem act_ask (hended : w.ended = false) :
    w.act .ask = ⟨w.results.step.2, w.seen ++ w.results.sights, w.results.step.1.isOver⟩ := by
  rw [Watch.act, if_neg (by simp [hended])]

/-! ## One step -/

/-- A search that asks its body for more. -/
structure Hungry (r : Results) : Prop where
  /-- It has nothing to hand out. -/
  queue_eq : r.queue = []
  /-- It goes on. -/
  finished_eq : r.finished = false
  /-- Nobody gave it up. -/
  cancelled_eq : r.cancelled = false

/-- Why an answer of the body ends a search with a failure. -/
def Trips (r : Results) (e : Error) : Option (Except Error Bytes) → Prop
  | none => r.scanner.mayEnd = false ∧ e = Scanner.cutShort
  | some (.error e') => e' = e
  | some (.ok chunk) => r.scanner.feed chunk = .error e

/-- An answer ends a search with one failure. -/
theorem Trips.unique {e e' : Error} {answer : Option (Except Error Bytes)} (h : r.Trips e answer)
    (h' : r.Trips e' answer) : e = e' := by
  cases answer with
  | none => exact h.2.trans h'.2.symm
  | some answer =>
    cases answer with
    | error => exact h.symm.trans h'
    | ok chunk => exact Except.error.inj (h.symm.trans h')

/-- **What one step can be**, with what is seen of it. -/
inductive Stepped (r : Results) : Step × Results → List Sight → Prop
  | hands (found : SearchResult) (queue : List SearchResult) (front : r.queue = found :: queue) :
    Stepped r (.item (.ok found), { r with queue }) [.told (.ok found)]
  | over (queue : r.queue = []) (finished : r.finished = true) : Stepped r (.over, r) [.over]
  | givesUp (queue : r.queue = []) (finished : r.finished = false)
    (cancelled : r.cancelled = true) :
    Stepped r (.item (.error givenUp), { r with finished := true }) [.told (.error givenUp)]
  | waits (body : Body) (hungry : r.Hungry) (poll : r.body.poll = (.pending, body)) :
    Stepped r (.wait, { r with body }) [.asked .pending]
  | ends (body : Body) (hungry : r.Hungry) (poll : r.body.poll = (.ready none, body))
    (mayEnd : r.scanner.mayEnd = true) :
    Stepped r (.goOn, { r with body, finished := true }) [.asked (.ready none)]
  | takes (body : Body) (chunk : Bytes) (found : List SearchResult) (scanner : Scanner)
    (hungry : r.Hungry) (poll : r.body.poll = (.ready (some (.ok chunk)), body))
    (feed : r.scanner.feed chunk = .ok (found, scanner)) :
    Stepped r (.goOn, { r with body, scanner, queue := found })
      [.asked (.ready (some (.ok chunk)))]
  | fails (body : Body) (answer : Option (Except Error Bytes)) (e : Error) (hungry : r.Hungry)
    (poll : r.body.poll = (.ready answer, body)) (trips : r.Trips e answer) :
    Stepped r (.item (.error e), { r with body, finished := true })
      [.asked (.ready answer), .told (.error e)]

/-- What is seen of a step that asks the body. -/
theorem Hungry.step_eq (h : r.Hungry) : r.step = r.ask := by
  rw [step, h.queue_eq]
  dsimp only
  rw [if_neg (by simp [h.finished_eq]), if_neg (by simp [h.cancelled_eq])]

theorem Hungry.stepped (h : r.Hungry) : Stepped r r.step r.sights := by
  have hasks : (r.queue.isEmpty && !r.finished && !r.cancelled) = true := by
    simp [h.queue_eq, h.finished_eq, h.cancelled_eq]
  rw [sights, if_pos hasks, h.step_eq, ask]
  cases hpoll : r.body.poll with
  | mk answer body =>
    cases answer with
    | pending => exact .waits body h hpoll
    | ready answer =>
      cases answer with
      | none =>
        simp only [finish]
        split
        · next hend => exact .ends body h hpoll hend
        · next hend => exact .fails body none _ h hpoll ⟨by simpa using hend, rfl⟩
      | some answer =>
        cases answer with
        | error e => exact .fails body _ e h hpoll rfl
        | ok chunk =>
          simp only [take]
          cases hfeed : r.scanner.feed chunk with
          | error e => exact .fails body _ e h hpoll hfeed
          | ok x => exact .takes body chunk x.1 x.2 h hpoll hfeed

/-- **Every step is one of these.** -/
theorem stepped_step (r : Results) : Stepped r r.step r.sights := by
  cases hqueue : r.queue with
  | cons found queue =>
    have hstep : r.step = (.item (.ok found), { r with queue }) := by rw [step, hqueue]
    rw [sights, hqueue, hstep]
    exact .hands found queue hqueue
  | nil =>
    cases hfinished : r.finished with
    | true =>
      have hstep : r.step = (.over, r) := by rw [step, hqueue, hfinished]; rfl
      rw [sights, hqueue, hfinished, hstep]
      exact .over hqueue hfinished
    | false =>
      cases hcancelled : r.cancelled with
      | false => exact Hungry.stepped ⟨hqueue, hfinished, hcancelled⟩
      | true =>
        have hstep : r.step = r.fail givenUp := by rw [step, hqueue, hfinished, hcancelled]; rfl
        rw [sights, hqueue, hfinished, hcancelled, hstep]
        exact .givesUp hqueue hfinished hcancelled

/-! ## What a search keeps to -/

/-- **A search that goes on**: what it has told and what it has complete are together the results of
the chunks that it took. -/
structure Going (w : Watch) : Prop where
  /-- It goes on. -/
  finished_eq : w.results.finished = false
  /-- The scanner has come as far as the chunks. -/
  follows : w.results.scanner.Follows (chunksOf w.seen)
  /-- Nothing is lost. -/
  told_eq : toldOf w.seen ++ w.results.queue.map .ok =
    (Scanner.decoded (chunksOf w.seen)).map .ok
  /-- Neither a failure nor the end of the body was seen. -/
  not_settled : ¬ Settled w.seen
  /-- It has not told that it is over. -/
  over_notMem : .over ∉ w.seen
  /-- It has not told that it is over. -/
  ended_eq : w.ended = false

/-- **A search that is closed**: it has told all results of the chunks that it took, and perhaps a
failure behind them; what is left to tell is that it is over. -/
structure Closed (w : Watch) : Prop where
  /-- It takes nothing more. -/
  finished_eq : w.results.finished = true
  /-- Nothing is left to hand out. -/
  queue_eq : w.results.queue = []
  /-- Everything was told. -/
  told_eq : ∃ failed, toldOf w.seen = Scanner.items (Scanner.decoded (chunksOf w.seen)) failed
  /-- A failure was told, or the end of the body was met. -/
  settled : Settled w.seen
  /-- It tells once that it is over, as the last thing. -/
  over_last : if w.ended then ∃ front, w.seen = front ++ [.over] ∧ .over ∉ front
    else .over ∉ w.seen

/-- A search goes on or is closed. -/
inductive Sound (w : Watch) : Prop
  | going (h : Going w)
  | closed (h : Closed w)

/-- A search that begins has nothing to tell. -/
theorem going_start (body : Body) : Going { results := { body } } where
  finished_eq := rfl
  follows := Scanner.follows_empty
  told_eq := rfl
  not_settled h := by
    obtain hend | ⟨e, he⟩ := h
    · cases hend
    · cases he
  over_notMem := List.not_mem_nil
  ended_eq := rfl

/-- **A search trips over an answer** if and only if the answer brings a failure. -/
theorem Going.trips_iff (h : Going w) {answer : Option (Except Error Bytes)} {e : Error} :
    w.results.Trips e answer ↔ Scanner.failureOf (chunksOf w.seen) answer = some e := by
  cases answer with
  | none =>
    rw [Scanner.failureOf, h.follows.failure_eq, Trips]
    cases w.results.scanner.mayEnd <;> simp [eq_comm]
  | some answer =>
    cases answer with
    | error e' => exact (Option.some_inj (a := e')).symm
    | ok chunk =>
      rw [Scanner.failureOf, Trips]
      cases hfeed : w.results.scanner.feed chunk with
      | error e' => rw [(h.follows.feed_error hfeed).2, Except.error.injEq, Option.some_inj]
      | ok x =>
        rw [(h.follows.feed_ok hfeed).2.2]
        exact iff_of_false nofun nofun

/-- A search that asks its body has told all results of the chunks that it took. -/
theorem Going.told_of_hungry (h : Going w) (hhungry : w.results.Hungry) :
    toldOf w.seen = (Scanner.decoded (chunksOf w.seen)).map .ok := by
  have htold := h.told_eq
  rwa [hhungry.queue_eq, List.map_nil, List.append_nil] at htold

/-- A step after which a search goes on. -/
theorem Going.goesOn (h : Going w) {r : Results} {more : List Sight} (found : List SearchResult)
    (hfinished : r.finished = false)
    (hfollows : r.scanner.Follows (chunksOf w.seen ++ chunksOf more))
    (hdecoded : Scanner.decoded (chunksOf w.seen ++ chunksOf more) =
      Scanner.decoded (chunksOf w.seen) ++ found)
    (htold : toldOf more ++ r.queue.map .ok = (w.results.queue ++ found).map .ok)
    (hsettled : ¬ Settled more) (hover : .over ∉ more) :
    Going { results := r, seen := w.seen ++ more } where
  finished_eq := hfinished
  follows := chunksOf_append .. ▸ hfollows
  told_eq := by
    rw [toldOf_append, List.append_assoc, htold, chunksOf_append, hdecoded, List.map_append,
      ← List.append_assoc, h.told_eq, List.map_append]
  not_settled hmore := (settled_append_iff.1 hmore).elim h.not_settled hsettled
  over_notMem hmem := (List.mem_append.1 hmem).elim h.over_notMem hover
  ended_eq := rfl

/-- A step that closes a search. -/
theorem Going.closes (h : Going w) {r : Results} {more : List Sight} (failed : Option Error)
    (hfinished : r.finished = true) (hqueue : w.results.queue = []) (hqueue' : r.queue = [])
    (hdecoded : Scanner.decoded (chunksOf w.seen ++ chunksOf more) =
      Scanner.decoded (chunksOf w.seen))
    (htold : toldOf more = failed.toList.map .error) (hsettled : Settled more)
    (hover : .over ∉ more) : Closed { results := r, seen := w.seen ++ more } where
  finished_eq := hfinished
  queue_eq := hqueue'
  told_eq := by
    have hbefore := h.told_eq
    rw [hqueue, List.map_nil, List.append_nil] at hbefore
    exact ⟨failed, by rw [toldOf_append, htold, chunksOf_append, hdecoded, hbefore, Scanner.items]⟩
  settled := settled_append_iff.2 (.inr hsettled)
  over_last hmem := (List.mem_append.1 hmem).elim h.over_notMem hover

theorem Going.sound_ask (h : Going w) : Sound (w.act .ask) := by
  have hstepped := stepped_step w.results
  rw [act_ask h.ended_eq]
  generalize w.results.step = x at hstepped
  generalize w.results.sights = more at hstepped
  have hsame := (List.append_nil (Scanner.decoded (chunksOf w.seen))).symm
  have hnothing : Scanner.decoded (chunksOf w.seen ++ []) = Scanner.decoded (chunksOf w.seen) := by
    rw [List.append_nil]
  have hfollows : w.results.scanner.Follows (chunksOf w.seen ++ []) := by
    rw [List.append_nil]
    exact h.follows
  cases hstepped with
  | hands found queue hfront =>
    refine .going (h.goesOn [] h.finished_eq hfollows (hnothing.trans hsame) ?_ ?_ ?_)
    · rw [hfront, List.append_nil]
      rfl
    · simp [Settled]
    · simp
  | waits body hhungry =>
    exact .going (h.goesOn [] h.finished_eq hfollows (hnothing.trans hsame)
      (by rw [List.append_nil]; rfl) (by simp [Settled]) (by simp))
  | takes body chunk found scanner hhungry _ hfeed =>
    obtain ⟨hfollows', hdecoded, -⟩ := h.follows.feed_ok hfeed
    refine .going (h.goesOn found h.finished_eq hfollows' hdecoded ?_ ?_ ?_)
    · rw [hhungry.queue_eq]
      rfl
    · simp [Settled]
    · simp
  | «over» _ hfinished => exact absurd hfinished (by simp [h.finished_eq])
  | givesUp hqueue =>
    exact .closed (h.closes (some givenUp) rfl hqueue hqueue hnothing rfl (by simp [Settled])
      (by simp))
  | ends body hhungry =>
    exact .closed (h.closes none rfl hhungry.queue_eq hhungry.queue_eq hnothing rfl
      (by simp [Settled]) (by simp))
  | fails body answer e hhungry _ htrips =>
    refine .closed (h.closes (some e) rfl hhungry.queue_eq hhungry.queue_eq ?_ rfl
      (by simp [Settled]) (by simp))
    cases answer with
    | none => exact hnothing
    | some answer =>
      cases answer with
      | error => exact hnothing
      | ok chunk => exact (h.follows.feed_error htrips).1

theorem Closed.sound_ask (h : Closed w) : Sound (w.act .ask) := by
  cases hended : w.ended with
  | true =>
    rw [Watch.act, if_pos hended]
    exact .closed h
  | false =>
    have hstepped := stepped_step w.results
    have hover := h.over_last
    rw [hended] at hover
    rw [act_ask hended]
    generalize w.results.step = x at hstepped
    generalize w.results.sights = more at hstepped
    obtain ⟨failed, htold⟩ := h.told_eq
    cases hstepped with
    | hands _ _ hfront => simp [h.queue_eq] at hfront
    | givesUp _ hfinished => simp [h.finished_eq] at hfinished
    | waits _ hhungry | ends _ hhungry | takes _ _ _ _ hhungry | fails _ _ _ hhungry =>
      exact absurd hhungry.finished_eq (by simp [h.finished_eq])
    | «over» =>
      refine .closed ⟨h.finished_eq, h.queue_eq, ⟨failed, ?_⟩,
        settled_append_iff.2 (.inl h.settled), ⟨w.seen, rfl, hover⟩⟩
      rw [toldOf_append, chunksOf_append]
      simpa [toldOf, chunksOf] using htold

/-- **Every move keeps to it.** -/
theorem Sound.act (h : Sound w) (m : Move) : Sound (w.act m) := by
  cases m with
  | ask =>
    cases h with
    | going h => exact h.sound_ask
    | closed h => exact h.sound_ask
  | cancel =>
    cases h with
    | going h =>
      exact .going ⟨h.finished_eq, h.follows, h.told_eq, h.not_settled, h.over_notMem, h.ended_eq⟩
    | closed h => exact .closed ⟨h.finished_eq, h.queue_eq, h.told_eq, h.settled, h.over_last⟩

theorem sound_watch (body : Body) (moves : List Move) : Sound (watch body moves) := by
  induction moves using List.reverseRecOn with
  | nil => exact .going (going_start body)
  | append_singleton moves m ih =>
    rw [watch_concat]
    exact ih.act m

/-! ## What follows -/

/-- The results of the chunks that were taken that are not told yet. -/
def untold (seen : List Sight) : List SearchResult :=
  (Scanner.decoded (chunksOf seen)).drop (toldOf seen).length

theorem Going.untold_eq (h : Going w) : untold w.seen = w.results.queue := by
  have htold := congrArg (List.drop (toldOf w.seen).length) h.told_eq
  rw [List.drop_left, ← List.map_drop] at htold
  exact ((List.map_inj_right fun _ _ => Except.ok.inj).1 htold).symm

theorem Sound.going_of_hungry (h : Sound w) (hhungry : w.results.Hungry) : Going w := by
  cases h with
  | going h => exact h
  | closed h => exact absurd hhungry.finished_eq (by simp [h.finished_eq])

/-- That it is over is the last thing that a search tells. -/
theorem Closed.eq_nil_of_over (h : Closed w) {front back : List Sight}
    (hseen : w.seen = front ++ .over :: back) : back = [] := by
  have hlast := h.over_last
  split at hlast
  · obtain ⟨before, hbefore, hnot⟩ := hlast
    have hboth := List.append_eq_append_iff.1 (hbefore.symm.trans hseen)
    rcases hboth with ⟨rest, -, hrest⟩ | ⟨rest, rfl, hrest⟩
    · cases rest with
      | nil => exact (List.cons.inj hrest).2.symm
      | cons => simp at hrest
    · cases rest with
      | nil => exact (List.cons.inj hrest).2
      | cons s rest =>
        obtain ⟨rfl, -⟩ := List.cons.inj hrest
        exact absurd (List.mem_append_right _ List.mem_cons_self) hnot
  · exact absurd (hseen ▸ List.mem_append_right _ List.mem_cons_self) hlast

theorem Sound.ended_iff (h : Sound w) : w.ended = true ↔ .over ∈ w.seen := by
  cases h with
  | going h => exact iff_of_false (by simp [h.ended_eq]) h.over_notMem
  | closed h =>
    have hlast := h.over_last
    split at hlast
    · next hended =>
      obtain ⟨front, hseen, -⟩ := hlast
      exact iff_of_true hended (hseen ▸ List.mem_append_right _ (List.mem_singleton_self _))
    · next hended => exact iff_of_false hended hlast

end Results

end RegistryProxy
