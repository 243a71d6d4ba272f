import Mathlib.Data.List.Induction
import RegistryProxy.Proofs.Transfer.Protocol
import RegistryProxy.Transfer.Pipe

/-!
# Proofs/Transfer/Blob — bytes at hand come out as they went in

Bytes at hand are cut from the front, piece by piece, until nothing is left (`Cut`).  A stream of
them is told by how often it was asked (`afterAsked`): each time it hands out the next piece, and
behind the last one the lengths agree, so it ends well (`next_afterAsked`).  Hence whoever reads it
gets the bytes, and whoever gives it up before the end was told has got their beginning and is told
so (`blob_intact`).
-/

namespace RegistryProxy

namespace Body

variable {size fuel : Nat} {pieces : List Bytes} {data piece : Bytes}

/-! ## Cutting -/

/-- **Bytes and the pieces that are cut off their front**, until nothing is left. -/
inductive Cut (size : Nat) : Bytes → List Bytes → Prop
  | nil : Cut size [] []
  | cons {data : Bytes} {pieces : List Bytes} (some : data ≠ [])
    (rest : Cut size (data.drop size) pieces) : Cut size data (data.take size :: pieces)

theorem cut_spec (hsize : 0 < size) (hfuel : data.length ≤ fuel) (done : List Bytes) :
    ∃ pieces, cut size fuel done data = done.reverse ++ pieces ∧ Cut size data pieces := by
  induction fuel generalizing done data with
  | zero =>
    obtain rfl := List.eq_nil_of_length_eq_zero (Nat.le_zero.1 hfuel)
    exact ⟨[], (List.append_nil _).symm, .nil⟩
  | succ fuel ih =>
    rw [cut]
    split
    next hnone =>
      obtain rfl := List.isEmpty_iff.1 hnone
      exact ⟨[], (List.append_nil _).symm, .nil⟩
    next hsome =>
      have hne : data ≠ [] := mt List.isEmpty_iff.2 hsome
      have hshorter : (data.drop size).length ≤ fuel := by
        rw [List.length_drop]
        omega
      obtain ⟨pieces, heq, hcut⟩ := ih hshorter (data.take size :: done)
      refine ⟨data.take size :: pieces, ?_, .cons hne hcut⟩
      rw [heq, List.reverse_cons, List.append_assoc]
      rfl

/-- **Data are cut into pieces of one size**, of which the last may be shorter. -/
theorem cut_pieces (size : Nat) (data : Bytes) :
    Cut (max size 1) data (Body.pieces size data) := by
  obtain ⟨pieces, heq, hcut⟩ :=
    cut_spec (Nat.lt_of_lt_of_le Nat.one_pos (Nat.le_max_right size 1)) (Nat.le_refl data.length) []
  rw [Body.pieces, heq]
  exact hcut

theorem Cut.ne_nil (h : Cut size data (piece :: pieces)) : data ≠ [] := by
  cases h with
  | cons hsome => exact hsome

/-- The pieces together are the data. -/
theorem Cut.flatten_eq (h : Cut size data pieces) : pieces.flatten = data := by
  induction h with
  | nil => rfl
  | @cons data pieces _ _ ih => rw [List.flatten_cons, ih, List.take_append_drop]

theorem Cut.piece_bounds (h : Cut size data pieces) (hsize : 0 < size) :
    ∀ piece ∈ pieces, piece ≠ [] ∧ piece.length ≤ size := by
  induction h with
  | nil => simp
  | @cons data pieces hsome _ ih =>
    refine List.forall_mem_cons.2 ⟨⟨fun hnil => ?_, List.length_take_le ..⟩, ih⟩
    rcases List.take_eq_nil_iff.1 hnil with hzero | hnone
    · omega
    · exact hsome hnone

/-- **Only the last piece is shorter.** -/
theorem Cut.piece_full (h : Cut size data pieces) :
    ∀ piece ∈ pieces.dropLast, piece.length = size := by
  induction h with
  | nil => simp
  | @cons data pieces _ hrest ih =>
    rcases pieces with _ | ⟨next, pieces⟩
    · simp
    rw [List.dropLast_cons_cons]
    refine List.forall_mem_cons.2 ⟨?_, ih⟩
    -- Another piece is left, so there are more than `size` bytes.
    have hmore := List.length_pos_iff.2 hrest.ne_nil
    rw [List.length_drop] at hmore
    rw [List.length_take]
    omega

theorem flatten_pieces (size : Nat) (data : Bytes) : (Body.pieces size data).flatten = data :=
  (cut_pieces size data).flatten_eq

theorem chunks_ofBytes (data : Bytes) (size : Nat) :
    (Body.ofBytes data size).chunks = Body.pieces size data := by
  rw [ofBytes]
  induction Body.pieces size data with
  | nil => rfl
  | cons piece pieces ih => rw [List.map_cons, chunks, ih]

end Body

namespace Stream

variable {data : Bytes} {size n : Nat} {calls quiet : List Call} {w : Watch}

/-! ## The stream after it was asked -/

/-- Bytes at hand, to be handed out in pieces. -/
def blob (data : Bytes) (size : Nat) : Origin := .body (.ofBytes data size) (some data.length)

/-- The stream when its end was told. -/
def atEnd (data : Bytes) : Stream where
  source := .spent
  stage := .completed
  expected := some data.length
  observed := data.length

/-- **A stream of bytes at hand that was asked `n` times.** -/
def afterAsked (data : Bytes) (size n : Nat) : Stream :=
  if n ≤ (Body.pieces size data).length then {
    source := .body (((Body.pieces size data).drop n).map .chunk)
    stage := .transferring
    expected := some data.length
    observed := ((Body.pieces size data).take n).flatten.length }
  else atEnd data

theorem afterAsked_of_le (h : n ≤ (Body.pieces size data).length) : afterAsked data size n = {
    source := .body (((Body.pieces size data).drop n).map .chunk)
    stage := .transferring
    expected := some data.length
    observed := ((Body.pieces size data).take n).flatten.length } :=
  if_pos h

/-- A stream that was asked once more than it has pieces is complete. -/
theorem afterAsked_of_lt (h : (Body.pieces size data).length < n) :
    afterAsked data size n = atEnd data :=
  if_neg (Nat.not_le.2 h)

theorem afterAsked_zero (data : Bytes) (size : Nat) : afterAsked data size 0 = ofBytes data size :=
  rfl

/-- **Asked once more**, it hands out the next piece, and then tells its end. -/
theorem next_afterAsked (data : Bytes) (size n : Nat) : (afterAsked data size n).next = {
    item := .ready ((Body.pieces size data)[n]?.map .ok)
    stream := afterAsked data size (n + 1) } := by
  rcases Nat.lt_trichotomy n (Body.pieces size data).length with hlt | heq | hgt
  · have htaken : ((Body.pieces size data).take (n + 1)).flatten.length =
        ((Body.pieces size data).take n).flatten.length + (Body.pieces size data)[n].length := by
      rw [List.take_succ_eq_append_getElem hlt, List.flatten_append, List.length_append]
      simp
    rw [afterAsked_of_le (Nat.le_of_lt hlt), afterAsked_of_le hlt, List.drop_eq_getElem_cons hlt,
      List.getElem?_eq_getElem hlt, htaken]
    rfl
  · have hnone := List.drop_eq_nil_of_le (Nat.le_of_eq heq.symm)
    rw [afterAsked_of_le (Nat.le_of_eq heq), afterAsked_of_lt (heq ▸ Nat.lt_succ_self n),
      hnone, List.take_of_length_le (Nat.le_of_eq heq.symm), Body.flatten_pieces,
      List.getElem?_eq_none (Nat.le_of_eq heq.symm)]
    simp [Stream.next, pollBody, Body.poll, finish, endAt, atEnd]
  · rw [afterAsked_of_lt hgt, afterAsked_of_lt (Nat.lt_succ_of_lt hgt),
      List.getElem?_eq_none (Nat.le_of_lt hgt)]
    rfl

theorem pollOpen_afterAsked (data : Bytes) (size n : Nat) :
    (afterAsked data size n).pollOpen =
      (.ready (.ok (some data.length)), afterAsked data size n) := by
  rw [afterAsked]
  split <;> rfl

/-! ## Asking in any order -/

/-- Whether a call asks for the next chunk. -/
def Call.asks : Call → Bool
  | .next => true
  | .pollOpen | .abort => false

/-- How often the next chunk was asked for. -/
def asks (calls : List Call) : Nat := calls.countP Call.asks

/-- **What `n` times asking tells**: the pieces in order, and behind them the end. -/
def told (data : Bytes) (size n : Nat) : List (Option (Except Error Bytes)) :=
  (List.range n).map fun i => (Body.pieces size data)[i]?.map .ok

theorem asks_concat (calls : List Call) (c : Call) :
    asks (calls ++ [c]) = asks calls + asks [c] :=
  List.countP_append

theorem told_succ (data : Bytes) (size n : Nat) :
    told data size (n + 1) = told data size n ++ [(Body.pieces size data)[n]?.map .ok] := by
  rw [told, List.range_succ, List.map_append]
  rfl

/-- A call that does not give the stream up. -/
theorem call_afterAsked {c : Call} (hw : w.stream = afterAsked data size n)
    (hseen : itemsOf w.seen = told data size n) (hc : c ≠ .abort) :
    (w.call c).stream = afterAsked data size (n + asks [c]) ∧
      itemsOf (w.call c).seen = told data size (n + asks [c]) := by
  cases c with
  | abort => exact absurd rfl hc
  | next =>
    rw [Watch.call, hw, next_afterAsked, itemsOf_append, hseen]
    exact ⟨rfl, (told_succ data size n).symm⟩
  | pollOpen =>
    rw [Watch.call, hw, pollOpen_afterAsked, itemsOf_append, hseen]
    exact ⟨rfl, List.append_nil _⟩

/-- **What was called tells the stream**, unless it was given up. -/
theorem watch_blob (data : Bytes) (size : Nat) (hkept : .abort ∉ calls) :
    ((blob data size).watch calls).stream = afterAsked data size (asks calls) ∧
      itemsOf ((blob data size).watch calls).seen = told data size (asks calls) := by
  induction calls using List.reverseRecOn with
  | nil => exact ⟨(afterAsked_zero data size).symm, rfl⟩
  | append_singleton calls c ih =>
    rw [List.mem_append, not_or, List.mem_singleton] at hkept
    obtain ⟨hstream, hseen⟩ := ih hkept.1
    rw [watch_append, asks_concat]
    exact call_afterAsked hstream hseen (Ne.symm hkept.2)

/-- Whatever is called, what was handed out is the beginning of the bytes. -/
theorem handed_blob (data : Bytes) (size : Nat) (calls : List Call) :
    ((blob data size).watch calls).stream.observed =
        (chunksOf ((blob data size).watch calls).seen).flatten.length ∧
      (chunksOf ((blob data size).watch calls).seen).flatten <+: data := by
  obtain ⟨⟨rest, hrest⟩, hobserved⟩ := (stands_watch (blob data size) calls).chunks
  refine ⟨hobserved, rest.flatten, ?_⟩
  have hchunks : (blob data size).chunks = Body.pieces size data := Body.chunks_ofBytes data size
  rw [← List.flatten_append, hrest, hchunks, Body.flatten_pieces]

/-! ## Reading to the end -/

/-- **A reader gets the pieces that are left.** -/
theorem run_afterAsked (hn : n ≤ (Body.pieces size data).length) (collected : Bytes) (log : Log)
    {fuel : Nat} (hfuel : (Body.pieces size data).length < n + fuel) :
    Gather.run fuel { stream := afterAsked data size n, collected, log } =
      (.ready (.ok (collected ++ ((Body.pieces size data).drop n).flatten)), {
        stream := atEnd data
        collected := collected ++ ((Body.pieces size data).drop n).flatten
        log }) := by
  induction fuel generalizing n collected with
  | zero => omega
  | succ fuel ih =>
    rw [Gather.run, Gather.step, next_afterAsked, List.append_nil]
    rcases Nat.lt_or_eq_of_le hn with hlt | rfl
    · rw [List.getElem?_eq_getElem hlt, List.drop_eq_getElem_cons hlt, List.flatten_cons,
        ← List.append_assoc]
      exact ih hlt _ (by omega)
    · rw [List.getElem?_eq_none (Nat.le_refl _), List.drop_length, List.flatten_nil,
        List.append_nil, afterAsked_of_lt (Nat.lt_succ_self _)]
      rfl

/-- Whoever gathers a blob has it at once. -/
theorem poll_blob (data : Bytes) (size : Nat) :
    Gather.poll { stream := ofBytes data size } =
      (.ready (.ok data), { stream := atEnd data, collected := data }) := by
  have hfuel : (Body.pieces size data).length <
      0 + ((ofBytes data size).remaining + 2) := by
    simp only [remaining, ofBytes, ofBody, Body.ofBytes, List.length_map]
    omega
  have hrun := run_afterAsked (Nat.zero_le _) [] [] hfuel
  rwa [List.drop_zero, Body.flatten_pieces, List.nil_append] at hrun

/-! ## Giving up -/

/-- As long as the next chunk is not asked for, nothing changes. -/
theorem quiet_afterAbort (hstage : w.stream.stage = .transferring) (hc : w.stream.cancelled = true)
    (hquiet : .next ∉ quiet) :
    (quiet.foldl Watch.call w).stream = w.stream ∧
      chunksOf (quiet.foldl Watch.call w).seen = chunksOf w.seen := by
  induction quiet using List.reverseRecOn with
  | nil => exact ⟨rfl, rfl⟩
  | append_singleton quiet c ih =>
    rw [List.mem_append, not_or, List.mem_singleton] at hquiet
    obtain ⟨hstream, hchunks⟩ := ih hquiet.1
    rw [List.foldl_append, List.foldl_cons, List.foldl_nil]
    cases c with
    | next => exact absurd rfl hquiet.2
    | pollOpen =>
      rw [Watch.call, chunksOf_append, hchunks, hstream, pollOpen, hstage]
      exact ⟨rfl, List.append_nil _⟩
    | abort =>
      rw [Watch.call, chunksOf_append, hchunks, hstream, abort, ← hc]
      exact ⟨rfl, List.append_nil _⟩

theorem next_of_cancelled {s : Stream} {rest : Body} (hsource : s.source = .body rest)
    (hc : s.cancelled = true) :
    s.next = { item := .ready (some (.error abortedError)), stream := s.endAt .aborted } := by
  rw [Stream.next, hsource]
  exact if_pos hc

/-- **Given up before the end was told**, a stream tells so when it is asked. -/
theorem call_afterAbort (hw : w.stream = afterAsked data size n)
    (hn : n ≤ (Body.pieces size data).length) (hquiet : .next ∉ quiet) :
    (quiet.foldl Watch.call (w.call .abort)).stream.next = {
        item := .ready (some (.error abortedError))
        stream := w.stream.abort.endAt .aborted } ∧
      chunksOf (quiet.foldl Watch.call (w.call .abort)).seen = chunksOf w.seen := by
  rw [afterAsked_of_le hn] at hw
  obtain ⟨hstream, hchunks⟩ := quiet_afterAbort (w := w.call .abort)
    (by rw [Watch.call, hw]; rfl) rfl hquiet
  refine ⟨?_, ?_⟩
  · rw [hstream]
    exact next_of_cancelled (by rw [Watch.call, hw]; rfl) rfl
  · rw [hchunks, Watch.call, chunksOf_append]
    exact List.append_nil _

/-! ## Intact -/

/-- **Bytes come out as they went in.** -/
structure Intact (data : Bytes) (size : Nat) : Prop where
  /-- The pieces are the bytes. -/
  pieces : (Body.pieces size data).flatten = data
  /-- No piece is empty, and none has more than `size` bytes, or one if that is none. -/
  bounds : ∀ piece ∈ Body.pieces size data, piece ≠ [] ∧ piece.length ≤ max size 1
  /-- Only the last piece has fewer. -/
  full : ∀ piece ∈ (Body.pieces size data).dropLast, piece.length = max size 1
  /-- Asked `n` times and not given up, it has told the first `n` pieces and then only its end. -/
  items : ∀ calls, .abort ∉ calls →
    itemsOf ((blob data size).watch calls).seen = told data size (asks calls)
  /-- Until it tells its end it transfers. -/
  lives : ∀ calls, .abort ∉ calls → asks calls ≤ (Body.pieces size data).length →
    ((blob data size).watch calls).stream.stage = .transferring
  /-- When it has told its end it is complete, and the lengths agree. -/
  ends : ∀ calls, .abort ∉ calls → (Body.pieces size data).length < asks calls →
    ((blob data size).watch calls).stream.stage = .completed ∧
      ((blob data size).watch calls).stream.expected = some data.length ∧
      ((blob data size).watch calls).stream.observed = data.length
  /-- Read into memory it is the bytes, and nothing is logged. -/
  gathered : Gather.poll { stream := ofBytes data size } =
    (.ready (.ok data), { stream := atEnd data, collected := data, log := [] })
  /-- Whatever was called, the bytes handed out are the beginning of the data, and counted. -/
  handed : ∀ calls,
    (chunksOf ((blob data size).watch calls).seen).flatten <+: data ∧
      ((blob data size).watch calls).stream.observed =
        (chunksOf ((blob data size).watch calls).seen).flatten.length
  /-- Given up before its end was told, it tells so when it is asked the next time, and has handed
  out nothing since. -/
  given_up : ∀ calls quiet, .abort ∉ calls → asks calls ≤ (Body.pieces size data).length →
    .next ∉ quiet →
    ((blob data size).watch (calls ++ .abort :: quiet)).stream.next.item =
        .ready (some (.error abortedError)) ∧
      ((blob data size).watch (calls ++ .abort :: quiet)).stream.next.stream.stage = .aborted ∧
      chunksOf ((blob data size).watch (calls ++ .abort :: quiet)).seen =
        chunksOf ((blob data size).watch calls).seen

/-- **Bytes at hand come out as they went in**, whatever the size of the pieces. -/
theorem blob_intact (data : Bytes) (size : Nat) : Intact data size where
  pieces := Body.flatten_pieces size data
  bounds := (Body.cut_pieces size data).piece_bounds (Nat.le_max_right size 1)
  full := (Body.cut_pieces size data).piece_full
  items := fun calls hkept => (watch_blob data size hkept).2
  lives := by
    intro calls hkept hasked
    rw [(watch_blob data size hkept).1, afterAsked_of_le hasked]
  ends := by
    intro calls hkept hasked
    rw [(watch_blob data size hkept).1, afterAsked_of_lt hasked]
    exact ⟨rfl, rfl, rfl⟩
  gathered := poll_blob data size
  handed := fun calls => (handed_blob data size calls).symm
  given_up := by
    intro calls quiet hkept hasked hquiet
    obtain ⟨hnext, hchunks⟩ := call_afterAbort (watch_blob data size hkept).1 hasked hquiet
    rw [watch_append, List.foldl_cons, hnext]
    exact ⟨rfl, rfl, hchunks⟩

/-- Pieces of no bytes are pieces of one. -/
example : Body.pieces 0 [1, 2, 3] = [[1], [2], [3]] := rfl

end Stream

end RegistryProxy
