import RegistryProxy.Proofs.Transfer.Life

/-!
# Proofs/Transfer/Transcript — what a stream tells whoever asks it

A `Watch` is a stream together with everything that it was seen to answer.  While it lives, the
chunks it has handed out and those its body still holds are together the chunks of its origin
(`Live`).  One answer ends it (`Closes`), and after that it only repeats itself (`Sight.Echoes`).
Each call keeps to this (`Stands.call`), whatever was called before, and so does every run of calls.
-/

namespace RegistryProxy

/-! ## What is in a body -/

namespace Body

/-- How a body leaves off. -/
inductive Ending where
  /-- It comes to its end. -/
  | ends
  /-- It fails. -/
  | fails (e : Error)
  /-- It is not ready for ever. -/
  | stalls

/-- The chunks that a body hands out, in order. -/
def chunks : Body → List Bytes
  | .chunk data :: rest => data :: chunks rest
  | .wait :: rest => chunks rest
  | .fault _ :: _ | .stall :: _ | [] => []

/-- How a body leaves off behind its last chunk. -/
def ending : Body → Ending
  | .chunk _ :: rest | .wait :: rest => ending rest
  | .fault e :: _ => .fails e
  | .stall :: _ => .stalls
  | [] => .ends

variable {body rest : Body}

theorem of_poll_pending (h : body.poll = (.pending, rest)) :
    body.chunks = rest.chunks ∧ rest.ending = body.ending := by
  cases body with
  | nil => cases h
  | cons part parts =>
    cases part with
    | chunk | fault => cases h
    | wait | stall =>
      cases h
      exact ⟨rfl, rfl⟩

/-- A chunk that is handed out was the first part. -/
theorem eq_of_poll_chunk {data : Bytes} (h : body.poll = (.ready (some (.ok data)), rest)) :
    body = .chunk data :: rest := by
  cases body with
  | nil => cases h
  | cons part parts =>
    cases part with
    | fault | wait | stall => cases h
    | chunk =>
      cases h
      rfl

theorem of_poll_chunk {data : Bytes} (h : body.poll = (.ready (some (.ok data)), rest)) :
    body.chunks = data :: rest.chunks ∧ rest.ending = body.ending := by
  rw [eq_of_poll_chunk h]
  exact ⟨rfl, rfl⟩

theorem length_of_poll_chunk {data : Bytes} (h : body.poll = (.ready (some (.ok data)), rest)) :
    rest.length < body.length := by
  rw [eq_of_poll_chunk h]
  exact Nat.lt_succ_self _

theorem of_poll_error {e : Error} (h : body.poll = (.ready (some (.error e)), rest)) :
    body.chunks = [] ∧ body.ending = .fails e := by
  cases body with
  | nil => cases h
  | cons part parts =>
    cases part with
    | chunk | wait | stall => cases h
    | fault =>
      cases h
      exact ⟨rfl, rfl⟩

theorem of_poll_end (h : body.poll = (.ready none, rest)) : body = [] := by
  cases body with
  | nil => rfl
  | cons part parts => cases part <;> cases h

theorem length_of_poll_end (h : body.poll = (.ready none, rest)) : rest.length = body.length := by
  obtain rfl := of_poll_end h
  cases h
  rfl

end Body

/-- Asking a source to open does not change its answer. -/
theorem Opening.answer_of_poll {o o' : Opening} {answer : Poll (Except Error Opened)}
    (h : o.poll = (answer, o')) :
    o'.answer = o.answer ∧ ∀ value, answer = .ready value → value = o.answer := by
  rw [Opening.poll] at h
  split at h <;> cases h
  · exact ⟨rfl, fun value hvalue => by cases hvalue⟩
  · exact ⟨rfl, fun value hvalue => by cases hvalue; rfl⟩
  · exact ⟨rfl, fun value hvalue => by cases hvalue⟩

/-- The chunks that a source which opens with this answer has; none if it does not open. -/
def Opened.chunksOf (answer : Except Error Opened) : List Bytes :=
  match answer with
  | .ok opened => opened.body.chunks
  | .error _ => []

/-- The chunks that a source still holds. -/
def Source.chunks : Source → List Bytes
  | .opening o => Opened.chunksOf o.answer
  | .body rest => rest.chunks
  | .spent => []

namespace Stream

/-! ## Watching a stream -/

/-- What a stream is made of. -/
inductive Origin where
  /-- A source that has to open. -/
  | opening (o : Opening)
  /-- A body at hand and its declared length. -/
  | body (body : Body) (length : Option Nat)

/-- The stream to begin with. -/
def Origin.stream : Origin → Stream
  | .opening o => ofOpening o
  | .body rest length => ofBody rest length

/-- What the source answers when it opens. -/
def Origin.answer : Origin → Except Error Opened
  | .opening o => o.answer
  | .body rest length => .ok { body := rest, length }

/-- The chunks that the source has. -/
def Origin.chunks (origin : Origin) : List Bytes := Opened.chunksOf origin.answer

/-- The length that the source declares. -/
def Origin.length (origin : Origin) : Option Nat :=
  match origin.answer with
  | .ok opened => opened.length
  | .error _ => none

/-- What can be done to a stream. -/
inductive Call where
  /-- It is asked once for the next chunk. -/
  | next
  /-- It is asked once to open. -/
  | pollOpen
  /-- It is given up. -/
  | abort

/-- What a call is seen to answer. -/
inductive Sight where
  /-- A chunk, a failure, the end or nothing yet. -/
  | item (answer : Poll (Option (Except Error Bytes)))
  /-- The declared length, a failure or nothing yet. -/
  | length (answer : Poll (Except Error (Option Nat)))
  /-- Giving up answers nothing. -/
  | abort

/-- A stream and what it was seen to answer, oldest first. -/
structure Watch where
  /-- The stream. -/
  stream : Stream
  /-- What was seen. -/
  seen : List Sight := []

/-- One call. -/
def Watch.call (w : Watch) : Call → Watch
  | .next => { stream := w.stream.next.stream, seen := w.seen ++ [.item w.stream.next.item] }
  | .pollOpen => { stream := w.stream.pollOpen.2, seen := w.seen ++ [.length w.stream.pollOpen.1] }
  | .abort => { stream := w.stream.abort, seen := w.seen ++ [.abort] }

/-- **One call after the other**, from the stream to begin with. -/
def Origin.watch (origin : Origin) (calls : List Call) : Watch :=
  calls.foldl Watch.call { stream := origin.stream }

/-- The answers of `next` that were no waiting, in order. -/
def itemsOf (seen : List Sight) : List (Option (Except Error Bytes)) :=
  seen.filterMap fun
    | .item (.ready item) => some item
    | _ => none

/-- The chunks that were handed out, in order. -/
def chunksOf (seen : List Sight) : List Bytes :=
  seen.filterMap fun
    | .item (.ready (some (.ok data))) => some data
    | _ => none

/-- An answer of a stream that lives on: a chunk, the declared length, or nothing yet. -/
def Sight.IsLive (origin : Origin) : Sight → Prop
  | .item answer => ∀ item, answer = .ready item → ∃ data, item = some (.ok data)
  | .length answer => ∀ length, answer = .ready length → length = .ok origin.length
  | .abort => True

/-- What opening a stream that is over answers. -/
def lastWord (s : Stream) : Except Error (Option Nat) :=
  match s.stage with
  | .aborted => .error abortedBefore
  | .errored => .error failedBefore
  | _ => .ok s.expected

/-- An answer of a stream that is over: only the end, and why it does not open. -/
def Sight.Echoes (s : Stream) : Sight → Prop
  | .item answer => answer = .ready none
  | .length answer => answer = .ready s.lastWord
  | .abort => True

/-- **A stream that lives**: what was handed out and what the body still holds is what the source
has. -/
inductive Live (origin : Origin) (given : List Bytes) (s : Stream) : Prop
  | opening (o : Opening) (source : s.source = .opening o) (stage : s.stage = .opening)
    (answer : o.answer = origin.answer) (nothing : given = [])
  | transferring (opened : Opened) (rest : Body) (source : s.source = .body rest)
    (stage : s.stage = .transferring) (answer : origin.answer = .ok opened)
    (expected : s.expected = opened.length) (chunks : opened.body.chunks = given ++ rest.chunks)
    (ending : rest.ending = opened.body.ending)

/-- **The answer that ends a stream**, and at which stage: `before` is what was seen so far. -/
inductive Closes (origin : Origin) (before : List Sight) : Stage → Sight → Prop
  | completes (opened : Opened) (answer : origin.answer = .ok opened)
    (chunks : chunksOf before = opened.body.chunks) (ending : opened.body.ending = .ends)
    (length : ∀ n, opened.length = some n → n = (chunksOf before).flatten.length)
    (uncancelled : .abort ∉ before) :
    Closes origin before .completed (.item (.ready none))
  | mismatches (opened : Opened) (n : Nat) (answer : origin.answer = .ok opened)
    (chunks : chunksOf before = opened.body.chunks) (ending : opened.body.ending = .ends)
    (declared : opened.length = some n) (length : n ≠ (chunksOf before).flatten.length)
    (uncancelled : .abort ∉ before) :
    Closes origin before .errored
      (.item (.ready (some (.error (.contentMismatch n (chunksOf before).flatten.length)))))
  | fails (opened : Opened) (e : Error) (answer : origin.answer = .ok opened)
    (chunks : chunksOf before = opened.body.chunks) (ending : opened.body.ending = .fails e)
    (uncancelled : .abort ∉ before) :
    Closes origin before .errored (.item (.ready (some (.error e))))
  | refused (e : Error) (answer : origin.answer = .error e) (chunks : chunksOf before = [])
    (uncancelled : .abort ∉ before) :
    Closes origin before .errored (.item (.ready (some (.error e))))
  | unopened (e : Error) (answer : origin.answer = .error e) (chunks : chunksOf before = [])
    (uncancelled : .abort ∉ before) :
    Closes origin before .errored (.length (.ready (.error e)))
  | aborted (chunks : chunksOf before <+: origin.chunks) (cancelled : .abort ∈ before) :
    Closes origin before .aborted (.item (.ready (some (.error abortedError))))
  | abortedOpening (chunks : chunksOf before = []) (cancelled : .abort ∈ before) :
    Closes origin before .aborted (.length (.ready (.error abortedWhileOpening)))

/-- **A watched stream that lives.** -/
structure Alive (origin : Origin) (w : Watch) : Prop where
  /-- What was handed out and what the body holds is what the source has. -/
  live : Live origin (chunksOf w.seen) w.stream
  /-- It has not told of any end. -/
  told : ∀ x ∈ w.seen, x.IsLive origin
  /-- The bytes handed out are counted. -/
  observed : w.stream.observed = (chunksOf w.seen).flatten.length
  /-- It knows whether it was given up. -/
  cancelled : w.stream.cancelled = true ↔ .abort ∈ w.seen

/-- **A watched stream that is over**: it lived `before`, the answer `last` has ended it, and since
then it only repeats itself. -/
structure Over (origin : Origin) (w : Watch) (before : List Sight) (last : Sight)
    (after : List Sight) : Prop where
  /-- The order of what was seen. -/
  seen : w.seen = before ++ last :: after
  /-- There is no source to be asked. -/
  source : w.stream.source = .spent
  /-- It had not told of any end. -/
  told : ∀ x ∈ before, x.IsLive origin
  /-- One answer has ended it. -/
  closes : Closes origin before w.stream.stage last
  /-- It repeats itself. -/
  echoes : ∀ x ∈ after, x.Echoes w.stream
  /-- The bytes handed out are counted. -/
  observed : w.stream.observed = (chunksOf before).flatten.length

/-- **Where a watched stream stands**: it lives, or one answer has ended it. -/
inductive Stands (origin : Origin) (w : Watch) : Prop
  | alive (alive : Alive origin w)
  | ended (before : List Sight) (last : Sight) (after : List Sight)
    (ended : Over origin w before last after)

variable {origin : Origin} {w : Watch} {s s' : Stream} {given : List Bytes} {seen : List Sight}
  {x last : Sight} {stage : Stage}

/-! ## What was seen -/

theorem itemsOf_append (seen seen' : List Sight) :
    itemsOf (seen ++ seen') = itemsOf seen ++ itemsOf seen' :=
  List.filterMap_append

theorem chunksOf_append (seen seen' : List Sight) :
    chunksOf (seen ++ seen') = chunksOf seen ++ chunksOf seen' :=
  List.filterMap_append

theorem itemsOf_cons (x : Sight) (seen : List Sight) :
    itemsOf (x :: seen) = itemsOf [x] ++ itemsOf seen :=
  itemsOf_append [x] seen

theorem chunksOf_cons (x : Sight) (seen : List Sight) :
    chunksOf (x :: seen) = chunksOf [x] ++ chunksOf seen :=
  chunksOf_append [x] seen

/-- A stream that lives hands out chunks and nothing else. -/
theorem Sight.IsLive.items (h : x.IsLive origin) :
    itemsOf [x] = (chunksOf [x]).map fun data => some (.ok data) := by
  cases x with
  | item answer =>
    cases answer with
    | pending => rfl
    | ready item =>
      obtain ⟨data, rfl⟩ := h item rfl
      rfl
  | length | abort => rfl

theorem itemsOf_live (h : ∀ x ∈ seen, x.IsLive origin) :
    itemsOf seen = (chunksOf seen).map fun data => some (.ok data) := by
  induction seen with
  | nil => rfl
  | cons x seen ih =>
    rw [List.forall_mem_cons] at h
    rw [itemsOf_cons, chunksOf_cons, List.map_append, h.1.items, ih h.2]

/-- A stream that is over hands out nothing. -/
theorem Sight.Echoes.items (h : x.Echoes s) :
    chunksOf [x] = [] ∧ ∃ ends, itemsOf [x] = List.replicate ends none := by
  cases x with
  | item answer =>
    cases h
    exact ⟨rfl, 1, rfl⟩
  | length | abort => exact ⟨rfl, 0, rfl⟩

theorem itemsOf_echoes (h : ∀ x ∈ seen, x.Echoes s) :
    chunksOf seen = [] ∧ ∃ ends, itemsOf seen = List.replicate ends none := by
  induction seen with
  | nil => exact ⟨rfl, 0, rfl⟩
  | cons x seen ih =>
    rw [List.forall_mem_cons] at h
    obtain ⟨hchunks, ends, hends⟩ := h.1.items
    obtain ⟨hchunks', ends', hends'⟩ := ih h.2
    refine ⟨by rw [chunksOf_cons, hchunks, hchunks']; rfl, ends + ends', ?_⟩
    rw [itemsOf_cons, hends, hends', List.replicate_append_replicate]

/-- The answer that ends a stream is no chunk. -/
theorem Closes.items {before : List Sight} (h : Closes origin before stage last) :
    chunksOf [last] = [] ∧ ∃ (failure : Option Error) (ends : Nat), itemsOf [last] =
      (failure.toList.map fun e => some (.error e)) ++ List.replicate ends none := by
  cases h with
  | completes => exact ⟨rfl, none, 1, rfl⟩
  | mismatches | fails | refused | aborted => exact ⟨rfl, some _, 0, rfl⟩
  | unopened | abortedOpening => exact ⟨rfl, none, 0, rfl⟩

/-- Only before it was over has a stream handed out chunks. -/
theorem Over.chunks {before after : List Sight} (h : Over origin w before last after) :
    chunksOf w.seen = chunksOf before := by
  rw [h.seen, chunksOf_append, chunksOf_cons, h.closes.items.1, (itemsOf_echoes h.echoes).1]
  simp only [List.append_nil]

/-- **The items of a stream are chunks, at most one failure, and then the end for ever.** -/
theorem Stands.items (h : Stands origin w) :
    ∃ (failure : Option Error) (ends : Nat), itemsOf w.seen =
      ((chunksOf w.seen).map fun data => some (.ok data)) ++
        (failure.toList.map fun e => some (.error e)) ++ List.replicate ends none := by
  cases h with
  | alive h => exact ⟨none, 0, by simp [itemsOf_live h.told]⟩
  | ended before last after h =>
    obtain ⟨-, failure, ends, hends⟩ := h.closes.items
    obtain ⟨-, ends', hends'⟩ := itemsOf_echoes h.echoes
    refine ⟨failure, ends + ends', ?_⟩
    rw [h.chunks, h.seen, itemsOf_append, itemsOf_cons, itemsOf_live h.told, hends, hends',
      ← List.replicate_append_replicate]
    simp only [List.append_assoc]

/-! ## A stream that lives -/

theorem Live.coherent (h : Live origin given s) : s.Coherent := by
  cases h with
  | opening o hsource hstage => simpa only [Coherent, hsource] using hstage
  | transferring opened rest hsource hstage => simpa only [Coherent, hsource] using hstage

theorem Live.isLive (h : Live origin given s) : s.stage.isLive = true := by
  cases h with
  | opening o hsource hstage => rw [hstage]; rfl
  | transferring opened rest hsource hstage => rw [hstage]; rfl

/-- A source that has not opened. -/
theorem Live.of_opening {o : Opening} (h : Live origin given s) (hsource : s.source = .opening o) :
    s.stage = .opening ∧ o.answer = origin.answer ∧ given = [] := by
  cases h with
  | opening o' hsource' hstage hanswer hnothing =>
    cases hsource.symm.trans hsource'
    exact ⟨hstage, hanswer, hnothing⟩
  | transferring opened rest hsource' => cases hsource.symm.trans hsource'

/-- A body at hand. -/
theorem Live.of_body {rest : Body} (h : Live origin given s) (hsource : s.source = .body rest) :
    ∃ opened, s.stage = .transferring ∧ origin.answer = .ok opened ∧ s.expected = opened.length ∧
      opened.body.chunks = given ++ rest.chunks ∧ rest.ending = opened.body.ending := by
  cases h with
  | opening o' hsource' => cases hsource.symm.trans hsource'
  | transferring opened rest' hsource' hstage hanswer hexpected hchunks hending =>
    cases hsource.symm.trans hsource'
    exact ⟨opened, hstage, hanswer, hexpected, hchunks, hending⟩

/-- **No chunk is lost**: what was handed out and what the source still holds is what it has. -/
theorem Live.chunks_eq (h : Live origin given s) : origin.chunks = given ++ s.source.chunks := by
  cases h with
  | opening o hsource hstage hanswer hnothing =>
    rw [hnothing, hsource, Origin.chunks, ← hanswer]
    rfl
  | transferring opened rest hsource hstage hanswer hexpected hchunks =>
    rw [hsource, Origin.chunks, hanswer]
    exact hchunks

theorem Live.prefix_chunks (h : Live origin given s) : given <+: origin.chunks :=
  ⟨s.source.chunks, h.chunks_eq.symm⟩

/-- A stream that has its body at hand knows the declared length. -/
theorem Live.expected_eq {rest : Body} (h : Live origin given s) (hsource : s.source = .body rest) :
    s.expected = origin.length := by
  obtain ⟨opened, -, hanswer, hexpected, -⟩ := h.of_body hsource
  rw [Origin.length, hanswer, hexpected]

/-- However a stream ends, what it has handed out is the beginning of what the source has. -/
theorem Closes.prefix_chunks {before : List Sight} (h : Closes origin before stage last) :
    chunksOf before <+: origin.chunks := by
  cases h with
  | completes opened hanswer hchunks | mismatches opened n hanswer hchunks
  | fails opened e hanswer hchunks => simp [hchunks, Origin.chunks, hanswer, Opened.chunksOf]
  | refused e _ hchunks | unopened e _ hchunks | abortedOpening hchunks => simp [hchunks]
  | aborted hchunks => exact hchunks

/-- Opening the source takes no chunk. -/
theorem Live.flows {rest : Body} (h : Live origin given s) (hflows : Flows s s' rest) :
    Live origin given s' := by
  cases hflows with
  | before => exact h
  | now o o' opened hsource hpoll =>
    obtain ⟨-, hanswer, hnothing⟩ := h.of_opening hsource
    have hready := (Opening.answer_of_poll hpoll).2 _ rfl
    exact .transferring opened opened.body rfl rfl (hanswer.symm.trans hready.symm) rfl
      (by rw [hnothing]; rfl) rfl

/-- A source that waits has the same answer. -/
theorem Live.waits {o o' : Opening} (h : Live origin given s) (hsource : s.source = .opening o)
    (hpoll : o.poll = (.pending, o')) : Live origin given { s with source := .opening o' } := by
  obtain ⟨hstage, hanswer, hnothing⟩ := h.of_opening hsource
  exact .opening o' rfl hstage ((Opening.answer_of_poll hpoll).1.trans hanswer) hnothing

/-- A source that does not open has handed out nothing. -/
theorem Live.refused {o o' : Opening} {e : Error} (h : Live origin given s)
    (hsource : s.source = .opening o) (hpoll : o.poll = (.ready (.error e), o')) :
    origin.answer = .error e ∧ given = [] := by
  obtain ⟨-, hanswer, hnothing⟩ := h.of_opening hsource
  exact ⟨hanswer.symm.trans ((Opening.answer_of_poll hpoll).2 _ rfl).symm, hnothing⟩

theorem Flows.keeps {rest : Body} (h : Flows s s' rest) :
    s'.observed = s.observed ∧ s'.cancelled = s.cancelled := by
  cases h with
  | before | now => exact ⟨rfl, rfl⟩

/-- Giving a stream up leaves it its source. -/
theorem Live.abort (h : Live origin given s) : Live origin given s.abort := by
  cases h with
  | opening o hsource hstage hanswer hnothing => exact .opening o hsource hstage hanswer hnothing
  | transferring opened rest hsource hstage hanswer hexpected hchunks hending =>
    exact .transferring opened rest hsource hstage hanswer hexpected hchunks hending

end Stream

end RegistryProxy
