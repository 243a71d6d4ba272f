import RegistryProxy.Proofs.Transfer.Transcript

/-!
# Proofs/Transfer/Protocol — the protocol of a stream

Whatever a watched stream is called to do, it goes on living, gives the one answer that ends it, or
repeats itself (`Stands.call`); so it does in every run of calls (`stands_watch`).  It is complete
if and only if it was asked at the end of its body, not given up, and the lengths agreed
(`completed_iff`).  While it lives, asking it takes the next part of its source (`Alive.takes`), or
tells that it was given up (`Alive.tells`).
-/

namespace RegistryProxy

namespace Stream

variable {origin : Origin} {w : Watch} {s s' : Stream} {given : List Bytes} {x last : Sight}
  {stage : Stage} {rest : Body}

/-! ## One call -/

/-- The watch after an answer. -/
def Watch.see (w : Watch) (s : Stream) (x : Sight) : Watch := { stream := s, seen := w.seen ++ [x] }

/-- It answers and lives on. -/
theorem Alive.goesOn (h : Alive origin w) (hgiven : chunksOf w.seen ++ chunksOf [x] = given)
    (hlive : Live origin given s) (hx : x.IsLive origin)
    (hobserved : s.observed = given.flatten.length)
    (hcancelled : s.cancelled = true ↔ .abort ∈ w.seen ++ [x]) : Stands origin (w.see s x) := by
  rw [← chunksOf_append] at hgiven
  subst hgiven
  refine .alive ⟨hlive, ?_, hobserved, hcancelled⟩
  simpa only [Watch.see, List.forall_mem_append, List.forall_mem_singleton] using ⟨h.told, hx⟩

/-- It gives the answer that ends it. -/
theorem Alive.ends (h : Alive origin w) (hcloses : Closes origin w.seen stage last) :
    Stands origin (w.see (w.stream.endAt stage) last) :=
  .ended w.seen last [] ⟨rfl, rfl, h.told, hcloses, by simp, h.observed⟩

/-- It has not been given up. -/
theorem Alive.uncancelled (h : Alive origin w) (hc : w.stream.cancelled = false) :
    .abort ∉ w.seen :=
  mt h.cancelled.2 (by simp [hc])

/-- Opening its source changes nothing else. -/
theorem Alive.flows (h : Alive origin w) (hflows : Flows w.stream s' rest) :
    Alive origin { w with stream := s' } := by
  have hlive := h.live.flows hflows
  cases hflows with
  | before | now => exact ⟨hlive, h.told, h.observed, h.cancelled⟩

/-- **Asking a body at hand.** -/
theorem Alive.pollBody (h : Alive origin w) (hc : w.stream.cancelled = false)
    (hsource : w.stream.source = .body rest) :
    Stands origin
      (w.see (w.stream.pollBody rest).stream (.item (w.stream.pollBody rest).item)) := by
  obtain ⟨opened, hstage, hanswer, hexpected, hchunks, hending⟩ := h.live.of_body hsource
  have habort := h.uncancelled hc
  have hcancelled (item) : w.stream.cancelled = true ↔ .abort ∈ w.seen ++ [.item item] := by
    simpa using h.cancelled
  have hgiven (hnothing : rest.chunks = []) : chunksOf w.seen = opened.body.chunks := by
    rw [hchunks, hnothing, List.append_nil]
  have hcarries := carries_pollBody w.stream rest
  generalize w.stream.pollBody rest = turn at hcarries
  cases hcarries with
  | waits rest' hpoll =>
    obtain ⟨hchunks', hending'⟩ := Body.of_poll_pending hpoll
    refine h.goesOn (List.append_nil _) ?_ (by simp [Sight.IsLive]) h.observed (hcancelled _)
    exact .transferring opened rest' rfl hstage hanswer hexpected (hchunks' ▸ hchunks)
      (hending'.trans hending)
  | chunk data rest' hpoll =>
    obtain ⟨hchunks', hending'⟩ := Body.of_poll_chunk hpoll
    refine h.goesOn rfl ?_ (by simp [Sight.IsLive]) ?_ (hcancelled _)
    · refine .transferring opened rest' rfl hstage hanswer hexpected ?_ (hending'.trans hending)
      rw [hchunks, hchunks', List.append_assoc]
      rfl
    · simp [h.observed, chunksOf]
  | fails e rest' hpoll =>
    obtain ⟨hnone, hfails⟩ := Body.of_poll_error hpoll
    exact h.ends (.fails opened e hanswer (hgiven hnone) (hending ▸ hfails) habort)
  | completes rest' hpoll hlength =>
    obtain rfl := Body.of_poll_end hpoll
    refine h.ends (.completes opened hanswer (hgiven rfl) hending.symm (fun n hn => ?_) habort)
    rw [hlength n (hexpected.trans hn), h.observed]
  | mismatches n rest' hpoll hn hlength =>
    obtain rfl := Body.of_poll_end hpoll
    rw [h.observed] at hlength ⊢
    exact h.ends (.mismatches opened n hanswer (hgiven rfl) hending.symm (hexpected.symm.trans hn)
      hlength habort)

theorem Alive.next (h : Alive origin w) : Stands origin (w.call .next) := by
  change Stands origin (w.see w.stream.next.stream (.item w.stream.next.item))
  have hasked := asked_next h.live.coherent
  generalize w.stream.next = turn at hasked
  cases hasked with
  | nothing hsource =>
    have hover := h.live.coherent.source_eq_spent_iff.1 hsource
    rw [h.live.isLive] at hover
    cases hover
  | aborted _ hc => exact h.ends (.aborted h.live.prefix_chunks (h.cancelled.1 hc))
  | opening o o' hc hsource hpoll =>
    exact h.goesOn (List.append_nil _) (h.live.waits hsource hpoll) (by simp [Sight.IsLive])
      h.observed (by simpa using h.cancelled)
  | refused o o' e hc hsource hpoll =>
    obtain ⟨hanswer, hgiven⟩ := h.live.refused hsource hpoll
    exact h.ends (.refused e hanswer hgiven (h.uncancelled hc))
  | body s' rest hc hflows =>
    exact (h.flows hflows).pollBody (hflows.keeps.2.trans hc) (hflows.coherent h.live.coherent).1

/-- Opening a stream that is not being opened asks nobody. -/
theorem pollOpen_of_ne (h : s.stage ≠ .opening) : s.pollOpen = (.ready s.lastWord, s) := by
  rw [pollOpen, lastWord]
  cases hstage : s.stage with
  | opening => exact absurd hstage h
  | transferring | completed | aborted | errored => rfl

theorem Alive.pollOpen (h : Alive origin w) : Stands origin (w.call .pollOpen) := by
  change Stands origin (w.see w.stream.pollOpen.2 (.length w.stream.pollOpen.1))
  have hcancelled (length) : w.stream.cancelled = true ↔ .abort ∈ w.seen ++ [.length length] := by
    simpa using h.cancelled
  cases hlive : h.live with
  | transferring opened rest hsource hstage hanswer hexpected =>
    rw [pollOpen_of_ne (by simp [hstage])]
    refine h.goesOn (List.append_nil _) h.live ?_ h.observed (hcancelled _)
    rintro _ ⟨⟩
    simp only [lastWord, hstage, hexpected, Origin.length, hanswer]
  | opening o hsource hstage hanswer hnothing =>
    have hopens := w.stream.opens_pollOpen
    generalize w.stream.pollOpen = answered at hopens
    cases hopens with
    | before _ hne => exact absurd hstage hne
    | nothing _ hne => exact absurd hsource (hne o)
    | aborted _ hc => exact h.ends (.abortedOpening hnothing (h.cancelled.1 hc))
    | waits o o' _ hc hsource hpoll =>
      exact h.goesOn (List.append_nil _) (h.live.waits hsource hpoll) (by simp [Sight.IsLive])
        h.observed (hcancelled _)
    | opened o₁ o' opened _ hc hsource₁ hpoll =>
      cases hsource.symm.trans hsource₁
      refine h.goesOn (List.append_nil _) (h.live.flows (.now o o' opened hsource hpoll)) ?_
        h.observed (hcancelled _)
      rintro _ ⟨⟩
      rw [Origin.length, ← hanswer, ← (Opening.answer_of_poll hpoll).2 _ rfl]
    | refused o₁ o' e _ hc hsource₁ hpoll =>
      obtain ⟨hanswer, hgiven⟩ := h.live.refused hsource₁ hpoll
      exact h.ends (.unopened e hanswer hgiven (h.uncancelled hc))

theorem Alive.abort (h : Alive origin w) : Stands origin (w.call .abort) :=
  h.goesOn (List.append_nil _) h.live.abort trivial h.observed (by simp [Stream.abort])

/-- **A call of a stream that is over** changes nothing but whether it was given up. -/
theorem call_of_over (hcoherent : w.stream.Coherent) (hover : w.stream.stage.isLive = false)
    (c : Call) :
    ∃ (x : Sight) (cancelled : Bool), x.Echoes w.stream ∧
      w.call c = w.see { w.stream with cancelled } x := by
  cases c with
  | next =>
    refine ⟨.item (.ready none), w.stream.cancelled, rfl, ?_⟩
    rw [Watch.call, next_of_over hcoherent hover]
    rfl
  | pollOpen =>
    refine ⟨.length (.ready w.stream.lastWord), w.stream.cancelled, rfl, ?_⟩
    rw [Watch.call, pollOpen_of_ne fun hstage => by simp [hstage, Stage.isLive] at hover]
    rfl
  | abort => exact ⟨.abort, true, trivial, rfl⟩

theorem Over.repeats {before after : List Sight} (h : Over origin w before last after)
    (hx : x.Echoes w.stream) (cancelled : Bool) :
    Over origin (w.see { w.stream with cancelled } x) before last (after ++ [x]) where
  seen := by simp only [Watch.see, h.seen, List.append_assoc, List.cons_append]
  source := h.source
  told := h.told
  closes := h.closes
  echoes := by
    rw [List.forall_mem_append, List.forall_mem_singleton]
    exact ⟨h.echoes, hx⟩
  observed := h.observed

theorem Over.isLive {before after : List Sight} (h : Over origin w before last after) :
    w.stream.stage.isLive = false := by
  have hcloses := h.closes
  generalize w.stream.stage = stage at hcloses
  cases hcloses <;> rfl

/-- **A complete stream has handed out its whole body**, of the declared length. -/
theorem Stands.of_completed (h : Stands origin w) (hcompleted : w.stream.stage = .completed) :
    ∃ opened, origin.answer = .ok opened ∧ opened.body.ending = .ends ∧
      chunksOf w.seen = opened.body.chunks ∧
      ∀ n, opened.length = some n → n = (chunksOf w.seen).flatten.length := by
  cases h with
  | alive h =>
    have hlive := h.live.isLive
    rw [hcompleted] at hlive
    cases hlive
  | ended before last after h =>
    have hcloses := h.closes
    rw [hcompleted] at hcloses
    rw [h.chunks]
    cases hcloses with
    | completes opened hanswer hchunks hending hlength =>
      exact ⟨opened, hanswer, hending, hchunks, hlength⟩

/-- **Nothing was taken** of a stream of which this was seen: no chunk and no failure. -/
structure Untouched (seen : List Sight) : Prop where
  /-- It has handed out no chunk. -/
  chunks : chunksOf seen = []
  /-- It has handed out no failure. -/
  failure : ∀ e, .item (.ready (some (.error e))) ∉ seen
  /-- It has not told why it does not open. -/
  refusal : ∀ e, .length (.ready (.error e)) ∉ seen

/-- A stream of which no failure was taken is not dead. -/
theorem Stands.not_dead (h : Stands origin w) (huntouched : Untouched w.seen) :
    w.stream.stage.isDead = false := by
  cases h with
  | alive h => exact Stage.isDead_eq_false_of_isLive h.live.isLive
  | ended before last after h =>
    have hlast : last ∈ w.seen := by simp [h.seen]
    have hcloses := h.closes
    generalize w.stream.stage = stage at hcloses
    cases hcloses with
    | completes => rfl
    | mismatches | fails | refused | aborted => exact absurd hlast (huntouched.failure _)
    | unopened | abortedOpening => exact absurd hlast (huntouched.refusal _)

theorem Stands.coherent (h : Stands origin w) : w.stream.Coherent := by
  cases h with
  | alive h => exact h.live.coherent
  | ended before last after h =>
    rw [Coherent, h.source]
    exact h.isLive

/-- **Every call keeps to the protocol.** -/
theorem Stands.call (h : Stands origin w) (c : Call) : Stands origin (w.call c) := by
  cases hstands : h with
  | alive halive =>
    cases c with
    | next => exact halive.next
    | pollOpen => exact halive.pollOpen
    | abort => exact halive.abort
  | ended before last after hover =>
    obtain ⟨x, cancelled, hx, hcall⟩ := call_of_over h.coherent hover.isLive c
    rw [hcall]
    exact .ended before last (after ++ [x]) (hover.repeats hx cancelled)

theorem Stands.chunks (h : Stands origin w) :
    chunksOf w.seen <+: origin.chunks ∧
      w.stream.observed = (chunksOf w.seen).flatten.length := by
  cases h with
  | alive h => exact ⟨h.live.prefix_chunks, h.observed⟩
  | ended before last after h =>
    rw [h.chunks]
    exact ⟨h.closes.prefix_chunks, h.observed⟩

/-- **Opening takes no chunk.** -/
theorem Stands.opens (h : Stands origin w) :
    (w.call .pollOpen).stream.observed = w.stream.observed ∧
      ((w.call .pollOpen).stream.source ≠ .spent →
        (w.call .pollOpen).stream.source.chunks = w.stream.source.chunks) := by
  have hseen : chunksOf (w.call .pollOpen).seen = chunksOf w.seen := by
    rw [Watch.call, chunksOf_append]
    exact List.append_nil _
  refine ⟨by rw [(h.call .pollOpen).chunks.2, h.chunks.2, hseen], ?_⟩
  intro hunended
  cases hstands : h with
  | ended before last after hover =>
    obtain ⟨x, cancelled, -, hcall⟩ := call_of_over h.coherent hover.isLive .pollOpen
    rw [hcall]
    rfl
  | alive halive =>
    cases h.call .pollOpen with
    | ended before last after hover => exact absurd hover.source hunended
    | alive halive' =>
      have heq := halive'.live.chunks_eq.symm.trans halive.live.chunks_eq
      rw [hseen] at heq
      exact List.append_cancel_left heq

/-! ## Every run of calls -/

theorem Stands.calls (h : Stands origin w) (calls : List Call) :
    Stands origin (calls.foldl Watch.call w) := by
  induction calls generalizing w with
  | nil => exact h
  | cons c calls ih => exact ih (h.call c)

theorem stands_start (origin : Origin) : Stands origin { stream := origin.stream } := by
  cases origin with
  | opening o =>
    refine .alive ⟨?_, by simp, rfl, by simp [Origin.stream, ofOpening]⟩
    exact .opening o rfl rfl rfl rfl
  | body rest length =>
    refine .alive ⟨?_, by simp, rfl, by simp [Origin.stream, ofBody]⟩
    exact .transferring { body := rest, length } rest rfl rfl rfl rfl rfl rfl

theorem stands_watch (origin : Origin) (calls : List Call) : Stands origin (origin.watch calls) :=
  (stands_start origin).calls calls

theorem watch_append (origin : Origin) (calls later : List Call) :
    origin.watch (calls ++ later) = later.foldl Watch.call (origin.watch calls) :=
  List.foldl_append

/-- **What is over stays over**: no call changes more than whether it was given up, and every answer
is a repetition. -/
theorem calls_of_over (hcoherent : w.stream.Coherent) (hover : w.stream.stage.isLive = false)
    (calls : List Call) :
    ∃ (cancelled : Bool) (after : List Sight), (∀ x ∈ after, x.Echoes w.stream) ∧
      calls.foldl Watch.call w =
        { stream := { w.stream with cancelled }, seen := w.seen ++ after } := by
  induction calls generalizing w with
  | nil => exact ⟨w.stream.cancelled, [], by simp, by simp⟩
  | cons c calls ih =>
    obtain ⟨x, cancelled, hx, hcall⟩ := call_of_over hcoherent hover c
    obtain ⟨cancelled', after, hafter, hcalls⟩ :=
      ih (w := w.see { w.stream with cancelled } x) hcoherent hover
    refine ⟨cancelled', x :: after, List.forall_mem_cons.2 ⟨hx, hafter⟩, ?_⟩
    rw [List.foldl_cons, hcall, hcalls, Watch.see, List.append_assoc]
    rfl

/-! ## The end of the body -/

/-- Asked for the next chunk, the stream meets the end of its body. -/
def MeetsEnd (s : Stream) : Prop := s.cancelled = false ∧ ∃ s', Flows s s' []

/-- The bytes handed out are as many as the source declares, if it does. -/
def Fits (origin : Origin) (s : Stream) : Prop := ∀ n, origin.length = some n → n = s.observed

theorem next_of_flows (hcoherent : s.Coherent) (hc : s.cancelled = false)
    (hflows : Flows s s' rest) : s.next = s'.pollBody rest := by
  cases hflows with
  | before _ hsource => simp [Stream.next, hsource, hc]
  | now o o' opened hsource hpoll =>
    have hstage : s.stage = .opening := by simpa only [Coherent, hsource] using hcoherent
    simp [Stream.next, Stream.pollOpen, hsource, hc, hstage, hpoll]

theorem Flows.source_ne (h : Flows s s' rest) : s.source ≠ .spent := by
  cases h with
  | before _ hsource => simp [hsource]
  | now o o' opened hsource => simp [hsource]

/-- **The end of the body tells how the transfer went**: all chunks came, and the stream is complete
if the lengths agree, and otherwise fails once with both lengths. -/
theorem Stands.meetsEnd (h : Stands origin w) (hend : w.stream.MeetsEnd) :
    chunksOf w.seen = origin.chunks ∧
      (Fits origin w.stream → (w.call .next).stream.stage = .completed) ∧
      ∀ n, origin.length = some n → n ≠ w.stream.observed →
        (w.call .next).stream.stage = .errored ∧
          (w.call .next).seen = w.seen ++
            [.item (.ready (some (.error (.contentMismatch n w.stream.observed))))] := by
  obtain ⟨hc, s', hflows⟩ := hend
  cases hstands : h with
  | ended before last after hover => exact absurd hover.source hflows.source_ne
  | alive halive =>
    have hcoherent := halive.live.coherent
    have hlive := halive.live.flows hflows
    have hsource := (hflows.coherent hcoherent).1
    have hexpected := hlive.expected_eq hsource
    have hobserved := hflows.keeps.1
    have hcall : w.call .next = w.see s'.finish.stream (.item s'.finish.item) := by
      rw [Watch.call, next_of_flows hcoherent hc hflows]
      rfl
    refine ⟨by simp [hlive.chunks_eq, hsource, Source.chunks, Body.chunks], ?_, ?_⟩
    · intro hfits
      rw [hcall, Watch.see, finish, hexpected]
      cases hlength : origin.length with
      | none => rfl
      | some n => simp only [hobserved, ← hfits n hlength, ↓reduceIte, endAt]
    · intro n hlength hne
      rw [hcall, Watch.see, finish, hexpected, hlength]
      simp only [hobserved, hne, ↓reduceIte, endAt, and_self]

/-- **Only the end of the body completes a stream.** -/
theorem Alive.of_completed (h : Alive origin w) {c : Call}
    (hcompleted : (w.call c).stream.stage = .completed) :
    c = .next ∧ w.stream.MeetsEnd ∧ Fits origin w.stream := by
  have hne : w.stream.stage ≠ .completed := by
    intro hstage
    have hlive := h.live.isLive
    rw [hstage] at hlive
    cases hlive
  cases c with
  | abort => exact absurd hcompleted hne
  | pollOpen =>
    change w.stream.pollOpen.2.stage = .completed at hcompleted
    have hopens := w.stream.opens_pollOpen
    generalize w.stream.pollOpen = answered at hopens hcompleted
    cases hopens with
    | before | waits | nothing => exact absurd hcompleted hne
    | aborted | opened | refused => cases hcompleted
  | next =>
    refine ⟨rfl, ?_⟩
    change w.stream.next.stream.stage = .completed at hcompleted
    have hasked := asked_next h.live.coherent
    generalize w.stream.next = turn at hasked hcompleted
    cases hasked with
    | nothing | opening => exact absurd hcompleted hne
    | aborted | refused => cases hcompleted
    | body s' rest hc hflows =>
      obtain ⟨hsource, hstage⟩ := hflows.coherent h.live.coherent
      have hcarries := carries_pollBody s' rest
      generalize s'.pollBody rest = turn at hcarries hcompleted
      cases hcarries with
      | waits | chunk => cases hstage.symm.trans hcompleted
      | fails | mismatches => cases hcompleted
      | completes rest' hpoll hlength =>
        obtain rfl := Body.of_poll_end hpoll
        refine ⟨⟨hc, s', hflows⟩, fun n hn => ?_⟩
        rw [← hflows.keeps.1]
        exact hlength n (((h.live.flows hflows).expected_eq hsource).trans hn)

/-- **A completed stream has met the end of its body**, in one of the calls. -/
theorem Alive.completed_calls (h : Alive origin w) (calls : List Call)
    (hcompleted : (calls.foldl Watch.call w).stream.stage = .completed) :
    ∃ earlier later, calls = earlier ++ .next :: later ∧
      (earlier.foldl Watch.call w).stream.MeetsEnd ∧
      Fits origin (earlier.foldl Watch.call w).stream := by
  induction calls generalizing w with
  | nil =>
    have hlive := h.live.isLive
    rw [show w.stream.stage = .completed from hcompleted] at hlive
    cases hlive
  | cons c calls ih =>
    cases (Stands.alive h).call c with
    | alive h' =>
      obtain ⟨earlier, later, rfl, hmeets⟩ := ih h' hcompleted
      exact ⟨c :: earlier, later, rfl, hmeets⟩
    | ended before last after hover =>
      -- Being over, the stream has not changed its stage since this call.
      obtain ⟨cancelled, _, -, hcalls⟩ :=
        calls_of_over (Stands.ended before last after hover).coherent hover.isLive calls
      rw [List.foldl_cons, hcalls] at hcompleted
      obtain ⟨rfl, hmeets⟩ := h.of_completed hcompleted
      exact ⟨[], calls, rfl, hmeets⟩

/-- The call that ends a stream is the last that matters. -/
theorem watch_of_over (origin : Origin) (earlier later : List Call) {c : Call}
    (hover : ((origin.watch earlier).call c).stream.stage.isLive = false) :
    (origin.watch (earlier ++ c :: later)).stream.stage =
        ((origin.watch earlier).call c).stream.stage ∧
      ∃ after, (∀ x ∈ after, x.Echoes (origin.watch (earlier ++ c :: later)).stream) ∧
        (origin.watch (earlier ++ c :: later)).seen =
          ((origin.watch earlier).call c).seen ++ after := by
  have hcoherent := ((stands_watch origin earlier).call c).coherent
  obtain ⟨cancelled, after, hafter, hlater⟩ := calls_of_over hcoherent hover later
  rw [watch_append, List.foldl_cons, hlater]
  exact ⟨rfl, after, hafter, rfl⟩

/-- **A stream is complete if and only if** it met the end of its body when it had not been given
up, and the lengths agreed. -/
theorem completed_iff (origin : Origin) (calls : List Call) :
    (origin.watch calls).stream.stage = .completed ↔
      ∃ earlier later, calls = earlier ++ .next :: later ∧
        (origin.watch earlier).stream.MeetsEnd ∧ Fits origin (origin.watch earlier).stream := by
  constructor
  · intro hcompleted
    cases stands_start origin with
    | alive h => exact h.completed_calls calls hcompleted
    | ended before last after h => simpa using h.seen
  · rintro ⟨earlier, later, rfl, hmeets, hfits⟩
    have hstage := ((stands_watch origin earlier).meetsEnd hmeets).2.1 hfits
    exact (watch_of_over origin earlier later (by rw [hstage]; rfl)).1.trans hstage

/-- **Lengths that differ are told once**, when all chunks have come. -/
theorem told_of_mismatch {earlier : List Call} {n : Nat} (later : List Call)
    (hmeets : (origin.watch earlier).stream.MeetsEnd) (hn : origin.length = some n)
    (hne : n ≠ (origin.watch earlier).stream.observed) :
    chunksOf (origin.watch earlier).seen = origin.chunks ∧
      (origin.watch (earlier ++ .next :: later)).stream.stage = .errored ∧
      ∃ after, (∀ x ∈ after, x.Echoes (origin.watch (earlier ++ .next :: later)).stream) ∧
        (origin.watch (earlier ++ .next :: later)).seen = (origin.watch earlier).seen ++
          .item (.ready (some (.error
            (.contentMismatch n (origin.watch earlier).stream.observed)))) :: after := by
  obtain ⟨hchunks, -, hmismatch⟩ := (stands_watch origin earlier).meetsEnd hmeets
  obtain ⟨hstage, hseen⟩ := hmismatch n hn hne
  obtain ⟨hlater, after, hafter, hall⟩ :=
    watch_of_over origin earlier later (by rw [hstage]; rfl)
  refine ⟨hchunks, hlater.trans hstage, after, hafter, ?_⟩
  rw [hall, hseen, List.append_assoc]
  rfl

/-! ## The next part -/

/-- **What a source that is asked once answers, and what is left of it.**  One that opens now is
asked on. -/
inductive Takes : Source → Poll (Option (Except Error Bytes)) → Source → Prop
  | waits (o o' : Opening) (poll : o.poll = (.pending, o')) :
    Takes (.opening o) .pending (.opening o')
  | refuses (o o' : Opening) (e : Error) (poll : o.poll = (.ready (.error e), o')) :
    Takes (.opening o) (.ready (some (.error e))) .spent
  | opens (o o' : Opening) (opened : Opened) (poll : o.poll = (.ready (.ok opened), o'))
    {answer : Poll (Option (Except Error Bytes))} {source : Source}
    (takes : Takes (.body opened.body) answer source) : Takes (.opening o) answer source
  | pauses (body rest : Body) (poll : body.poll = (.pending, rest)) :
    Takes (.body body) .pending (.body rest)
  | chunk (body rest : Body) (data : Bytes) (poll : body.poll = (.ready (some (.ok data)), rest)) :
    Takes (.body body) (.ready (some (.ok data))) (.body rest)
  | fails (body rest : Body) (e : Error) (poll : body.poll = (.ready (some (.error e)), rest)) :
    Takes (.body body) (.ready (some (.error e))) .spent
  | ends (body rest : Body) (poll : body.poll = (.ready none, rest)) :
    Takes (.body body) (.ready none) .spent

/-- **What a stream tells of the answer of its source**: the same, but when the source ends and its
bytes are not as many as declared, both numbers. -/
inductive Conveys (origin : Origin) (observed : Nat) :
    Poll (Option (Except Error Bytes)) → Poll (Option (Except Error Bytes)) → Prop
  | same (answer : Poll (Option (Except Error Bytes)))
    (fits : answer = .ready none → ∀ n, origin.length = some n → n = observed) :
    Conveys origin observed answer answer
  | mismatches (n : Nat) (declared : origin.length = some n) (length : n ≠ observed) :
    Conveys origin observed (.ready none) (.ready (some (.error (.contentMismatch n observed))))

theorem Carries.takes {turn : Turn} (h : Carries s rest turn)
    (hexpected : s.expected = origin.length) :
    ∃ answer, Takes (.body rest) answer turn.stream.source ∧
      Conveys origin s.observed answer turn.item := by
  cases h with
  | waits rest' hpoll => exact ⟨_, .pauses rest rest' hpoll, .same _ nofun⟩
  | chunk data rest' hpoll => exact ⟨_, .chunk rest rest' data hpoll, .same _ nofun⟩
  | fails e rest' hpoll => exact ⟨_, .fails rest rest' e hpoll, .same _ nofun⟩
  | completes rest' hpoll hlength =>
    exact ⟨_, .ends rest rest' hpoll, .same _ fun _ n hn => hlength n (hexpected.trans hn)⟩
  | mismatches n rest' hpoll hn hlength =>
    exact ⟨_, .ends rest rest' hpoll, .mismatches n (hexpected.symm.trans hn) hlength⟩

theorem Flows.takes (h : Flows s s' rest) {answer : Poll (Option (Except Error Bytes))}
    {source : Source} (htakes : Takes (.body rest) answer source) :
    Takes s.source answer source := by
  cases h with
  | before _ hsource => rwa [hsource]
  | now o o' opened hsource hpoll =>
    rw [hsource]
    exact .opens o o' opened hpoll htakes

theorem Stands.alive_of_isLive (h : Stands origin w) (hlive : w.stream.stage.isLive = true) :
    Alive origin w := by
  cases h with
  | alive h => exact h
  | ended before last after h => cases hlive.symm.trans h.isLive

theorem abort_mem_seen (w : Watch) (calls : List Call) :
    .abort ∈ (calls.foldl Watch.call w).seen ↔ .abort ∈ w.seen ∨ .abort ∈ calls := by
  induction calls generalizing w with
  | nil => simp
  | cons c calls ih =>
    rw [List.foldl_cons, ih, List.mem_cons, ← or_assoc]
    cases c <;> simp [Watch.call]

/-- A stream that lives knows whether it was given up. -/
theorem Alive.cancelled_iff {calls : List Call} (h : Alive origin (origin.watch calls)) :
    (origin.watch calls).stream.cancelled = true ↔ .abort ∈ calls := by
  rw [h.cancelled, Origin.watch, abort_mem_seen]
  simp

/-- **A stream that lives and was not given up takes the next part of its source.** -/
theorem Alive.takes (h : Alive origin w) (hc : w.stream.cancelled = false) :
    ∃ answer, Takes w.stream.source answer w.stream.next.stream.source ∧
      Conveys origin w.stream.observed answer w.stream.next.item := by
  have hasked := asked_next h.live.coherent
  generalize w.stream.next = turn at hasked
  cases hasked with
  | nothing hsource =>
    have hover := h.live.coherent.source_eq_spent_iff.1 hsource
    rw [h.live.isLive] at hover
    cases hover
  | aborted _ hcancelled => cases hc.symm.trans hcancelled
  | opening o o' _ hsource hpoll =>
    rw [hsource]
    exact ⟨_, .waits o o' hpoll, .same _ nofun⟩
  | refused o o' e _ hsource hpoll =>
    rw [hsource]
    exact ⟨_, .refuses o o' e hpoll, .same _ nofun⟩
  | body s' rest _ hflows =>
    have hsource := (hflows.coherent h.live.coherent).1
    obtain ⟨answer, htakes, hconveys⟩ :=
      (carries_pollBody s' rest).takes ((h.live.flows hflows).expected_eq hsource)
    rw [hflows.keeps.1] at hconveys
    exact ⟨answer, hflows.takes htakes, hconveys⟩

/-- **A stream that lives and was given up says so** to whoever asks it first. -/
theorem Alive.tells (h : Alive origin w) (hc : w.stream.cancelled = true) :
    w.stream.next.item = .ready (some (.error abortedError)) ∧
      w.stream.next.stream.stage = .aborted ∧
      (w.stream.stage = .opening →
        w.stream.pollOpen = (.ready (.error abortedWhileOpening), w.stream.endAt .aborted)) := by
  have hnext : w.stream.next =
      { item := .ready (some (.error abortedError)), stream := w.stream.endAt .aborted } := by
    cases h.live with
    | opening o hsource | transferring opened rest hsource =>
      rw [Stream.next, hsource]
      exact if_pos hc
  rw [hnext]
  refine ⟨rfl, rfl, fun hstage => ?_⟩
  rw [Stream.pollOpen, hstage]
  exact if_pos hc

/-! ## The protocol -/

/-- **The protocol of a stream** that was called to do `calls`. -/
structure Protocol (origin : Origin) (calls : List Call) : Prop where
  /-- The items are chunks, at most one failure, and then the end for ever. -/
  items : ∃ (failure : Option Error) (ends : Nat), itemsOf (origin.watch calls).seen =
    ((chunksOf (origin.watch calls).seen).map fun data => some (.ok data)) ++
      (failure.toList.map fun e => some (.error e)) ++ List.replicate ends none
  /-- The chunks are those of the body, in order, from the first on. -/
  chunks : chunksOf (origin.watch calls).seen <+: origin.chunks
  /-- The bytes handed out are counted. -/
  observed : (origin.watch calls).stream.observed =
    (chunksOf (origin.watch calls).seen).flatten.length
  /-- Asking it to open hands out no chunk, and takes none from a source that may be asked on. -/
  opens : (origin.watch (calls ++ [.pollOpen])).stream.observed =
      (origin.watch calls).stream.observed ∧
    ((origin.watch (calls ++ [.pollOpen])).stream.source ≠ .spent →
      (origin.watch (calls ++ [.pollOpen])).stream.source.chunks =
        (origin.watch calls).stream.source.chunks)
  /-- The stream lives, or the one answer that ended it was told once. -/
  stands : Stands origin (origin.watch calls)
  /-- The stream is complete if and only if the end of its body was met, it had not been given up,
  and the bytes handed out were as many as declared. -/
  completed : (origin.watch calls).stream.stage = .completed ↔
    ∃ earlier later, calls = earlier ++ .next :: later ∧
      (origin.watch earlier).stream.MeetsEnd ∧ Fits origin (origin.watch earlier).stream
  /-- If the end of the body was met and the bytes handed out, all there are, were not as many as
  declared, then this was told there and then, and not again. -/
  mismatch : ∀ earlier later n, calls = earlier ++ .next :: later →
    (origin.watch earlier).stream.MeetsEnd → origin.length = some n →
    n ≠ (origin.watch earlier).stream.observed →
    chunksOf (origin.watch earlier).seen = origin.chunks ∧
      (origin.watch calls).stream.stage = .errored ∧
      ∃ after, (∀ x ∈ after, x.Echoes (origin.watch calls).stream) ∧
        (origin.watch calls).seen = (origin.watch earlier).seen ++
          .item (.ready (some (.error
            (.contentMismatch n (origin.watch earlier).stream.observed)))) :: after
  /-- A stream that lives and was not given up takes the next part of its source when it is asked
  for a chunk, and tells what that is. -/
  goes_on : (origin.watch calls).stream.stage.isLive = true → .abort ∉ calls →
    ∃ answer item,
      Takes (origin.watch calls).stream.source answer
        (origin.watch (calls ++ [.next])).stream.source ∧
      Conveys origin (origin.watch calls).stream.observed answer item ∧
      (origin.watch (calls ++ [.next])).seen = (origin.watch calls).seen ++ [.item item]
  /-- Giving a stream up ends nothing by itself, but one that lives and was given up says so when it
  is asked the next time, for a chunk or to open, and is over then. -/
  gives_up : (origin.watch (calls ++ [.abort])).stream.stage = (origin.watch calls).stream.stage ∧
    ((origin.watch calls).stream.stage.isLive = true → .abort ∈ calls →
      ((origin.watch (calls ++ [.next])).stream.stage = .aborted ∧
        (origin.watch (calls ++ [.next])).seen =
          (origin.watch calls).seen ++ [.item (.ready (some (.error abortedError)))]) ∧
      ((origin.watch calls).stream.stage = .opening →
        (origin.watch (calls ++ [.pollOpen])).stream.stage = .aborted ∧
          (origin.watch (calls ++ [.pollOpen])).seen =
            (origin.watch calls).seen ++ [.length (.ready (.error abortedWhileOpening))]))
  /-- A stream that is over has no source to be asked, and whatever is called later changes nothing
  but whether it was given up. -/
  ended : (origin.watch calls).stream.stage.isLive = false →
    (origin.watch calls).stream.source = .spent ∧
      ∀ later, ∃ cancelled,
        (origin.watch (calls ++ later)).stream = { (origin.watch calls).stream with cancelled }

/-- **Every stream keeps to the protocol**, whatever it is called to do and in whatever order. -/
theorem keeps_protocol (origin : Origin) (calls : List Call) : Protocol origin calls where
  items := (stands_watch origin calls).items
  chunks := (stands_watch origin calls).chunks.1
  observed := (stands_watch origin calls).chunks.2
  opens := by
    rw [watch_append]
    exact (stands_watch origin calls).opens
  stands := stands_watch origin calls
  completed := completed_iff origin calls
  mismatch := by
    rintro earlier later n rfl hmeets hn hne
    exact told_of_mismatch later hmeets hn hne
  goes_on := by
    intro hlive hkept
    have halive := (stands_watch origin calls).alive_of_isLive hlive
    obtain ⟨answer, htakes, hconveys⟩ :=
      halive.takes (Bool.eq_false_iff.2 (mt halive.cancelled_iff.1 hkept))
    rw [watch_append]
    exact ⟨answer, _, htakes, hconveys, rfl⟩
  gives_up := by
    rw [watch_append, watch_append, watch_append]
    refine ⟨rfl, fun hlive habort => ?_⟩
    have halive := (stands_watch origin calls).alive_of_isLive hlive
    obtain ⟨hitem, hstage, hopening⟩ := halive.tells (halive.cancelled_iff.2 habort)
    simp only [List.foldl_cons, List.foldl_nil, Watch.call, hitem, hstage, true_and]
    intro hstage
    rw [hopening hstage]
    exact ⟨rfl, rfl⟩
  ended := by
    intro hover
    have hcoherent := (stands_watch origin calls).coherent
    refine ⟨hcoherent.source_eq_spent_iff.2 hover, fun later => ?_⟩
    obtain ⟨cancelled, after, -, hlater⟩ := calls_of_over hcoherent hover later
    exact ⟨cancelled, by rw [watch_append, hlater]⟩

/-- A body that is a byte short. -/
example :
    itemsOf (Origin.watch (.body [.chunk [1], .wait, .chunk [2]] (some 3))
      [.next, .pollOpen, .next, .next, .next, .next]).seen =
      [some (.ok [1]), some (.ok [2]), some (.error (.contentMismatch 3 2)), none] := rfl

end Stream

end RegistryProxy
