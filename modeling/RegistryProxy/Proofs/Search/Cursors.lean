import Mathlib.Logic.Relation
import RegistryProxy.Proofs.Search.Feed

/-!
# Proofs/Search/Cursors — where the indices of a scanner point

A `Reading` is a scanner with all that it has received, and with the places there that its indices
stand for.  It receives a chunk, looks at byte after byte, and drops what is no longer needed
(`Reading.Step`); every chunk that a scanner takes is such a run (`Reading.Sound.feeds`).  Every
step keeps each index at its place as long as it is of use (`Reading.Sound`), so no part of the
buffer is ever taken that is not there (`Reading.cursors_in_bounds`).
-/

namespace RegistryProxy

namespace Scanner

variable {s : Scanner} {b : UInt8} {x : Scanner × Option Span}

/-! ## Taking a chunk -/

/-- No more is dropped than there is. -/
theorem Fits.keepFrom_le_length (h : s.Fits) : s.keepFrom ≤ s.buffer.length := by
  have hposition := h.position_le
  rw [keepFrom]
  split
  · next start hstart =>
    have := h.elementStart_lt start hstart
    omega
  split
  · next hname =>
    obtain ⟨hmembers, hin⟩ := Bool.and_eq_true_iff.1 hname
    have := h.stringStart_lt hin hmembers
    omega
  · exact Nat.le_refl _

/-- **Takes one chunk after the other**, up to the first failure. -/
def feedAll (s : Scanner) : List Bytes → Except Error Scanner
  | [] => .ok s
  | chunk :: chunks => do
    let (_, s) ← s.feed chunk
    s.feedAll chunks

/-! ## Readings -/

/-- **A scanner with all that it has received**, and where its indices stand in that. -/
structure Reading where
  /-- The scanner. -/
  scanner : Scanner := {}
  /-- All the bytes. -/
  received : Bytes := []
  /-- How many of them were dropped from the front of the buffer. -/
  gone : Nat := 0
  /-- How many of them were looked at. -/
  looked : Nat := 0
  /-- The first byte of the element at hand. -/
  elementAt : Option Nat := none
  /-- The quote that opened the last string. -/
  quoteAt : Nat := 0
  /-- The spans of the elements that ended in this chunk, in order. -/
  spans : List Span := []
  /-- Whether it is in the midst of a chunk. -/
  feeding : Bool := false

namespace Reading

/-- Takes a chunk into the buffer. -/
def receive (r : Reading) (chunk : Bytes) : Reading :=
  { r with
    scanner := r.scanner.extend chunk
    received := r.received ++ chunk
    spans := []
    feeding := true }

/-- Has looked at a byte.  What the scanner has at hand only since then began with it. -/
def look (r : Reading) (x : Scanner × Option Span) : Reading :=
  { r with
    scanner := x.1
    looked := r.looked + 1
    elementAt := x.1.elementStart.map fun _ => r.elementAt.getD r.looked
    quoteAt := if x.1.inString && !r.scanner.inString then r.looked else r.quoteAt
    spans := r.spans ++ x.2.toList }

/-- Drops what is no longer needed. -/
def drop (r : Reading) : Reading :=
  { r with
    scanner := r.scanner.compact
    gone := r.gone + r.scanner.keepFrom
    feeding := false }

/-- No byte is left to be looked at, or none is looked at any more. -/
def Over (r : Reading) : Prop :=
  r.scanner.phase = .done ∨ r.scanner.buffer.length ≤ r.scanner.position

variable {r r' : Reading} {chunk : Bytes} {chunks : List Bytes}

/-- **What a reading does**, one thing at a time. -/
inductive Step (r : Reading) : Reading → Prop
  | receive (chunk : Bytes) (idle : r.feeding = false) (unfinished : r.scanner.phase ≠ .done) :
    Step r (r.receive chunk)
  | look (b : UInt8) (x : Scanner × Option Span) (feeding : r.feeding = true)
    (unfinished : r.scanner.phase ≠ .done) (byte : r.scanner.buffer[r.scanner.position]? = some b)
    (taken : r.scanner.step b = .ok x) : Step r (r.look x)
  | drop (results : List SearchResult) (feeding : r.feeding = true) (ended : r.Over)
    (decoded : r.spans.mapM r.scanner.decodeSpan = .ok results) : Step r r.drop

/-- **One thing after the other.** -/
abbrev Run : Reading → Reading → Prop := Relation.ReflTransGen Step

/-- The bytes that are needed between two chunks: those of the element at hand, or of the string at
hand where names stand. -/
def needed (r : Reading) : Bytes :=
  match r.elementAt with
  | some first => r.received.drop first
  | none => if r.scanner.atMembers && r.scanner.inString then r.received.drop r.quoteAt else []

/-- **Every index stands where it should**, as long as it is of use. -/
structure Sound (r : Reading) : Prop where
  /-- The indices lie in the buffer. -/
  fits : r.scanner.Fits
  /-- No more was dropped than was received. -/
  gone_le : r.gone ≤ r.received.length
  /-- The buffer is what was received, without what was dropped. -/
  buffer_eq : r.scanner.buffer = r.received.drop r.gone
  /-- The next byte is the first that was not looked at. -/
  position_eq : r.feeding = true ∨ r.scanner.phase ≠ .done → r.gone + r.scanner.position = r.looked
  /-- The element at hand starts at its first byte. -/
  element_eq : r.elementAt = r.scanner.elementStart.map (r.gone + ·)
  /-- An open string starts at its quote, where names stand. -/
  quote_eq : r.scanner.inString = true → r.scanner.atMembers = true →
    r.gone + r.scanner.stringStart = r.quoteAt
  /-- The elements that ended lie in the buffer. -/
  spans_le : r.feeding = true →
    ∀ part ∈ r.spans, part.start ≤ part.stop ∧ part.stop ≤ r.scanner.buffer.length
  /-- Between two chunks, all bytes were looked at. -/
  idle_eq : r.feeding = false → r.scanner.position = r.scanner.buffer.length
  /-- Between two chunks, nothing is kept but what is needed. -/
  kept_eq : r.feeding = false → r.scanner.buffer = r.needed

theorem sound_empty : Sound {} where
  fits := ready_empty.fits
  gone_le := Nat.le_refl _
  buffer_eq := rfl
  position_eq := fun _ => rfl
  element_eq := rfl
  quote_eq := nofun
  spans_le := nofun
  idle_eq := fun _ => rfl
  kept_eq := fun _ => rfl

/-! ## What every step keeps -/

theorem Sound.receive (h : Sound r) (hunfinished : r.scanner.phase ≠ .done) (chunk : Bytes) :
    Sound (r.receive chunk) where
  fits := h.fits.extend chunk
  gone_le := by
    change r.gone ≤ (r.received ++ chunk).length
    rw [List.length_append]
    exact Nat.le_add_right_of_le h.gone_le
  buffer_eq := by
    change r.scanner.buffer ++ chunk = (r.received ++ chunk).drop r.gone
    rw [List.drop_append_of_le_length h.gone_le, ← h.buffer_eq]
  position_eq := fun _ => h.position_eq (.inr hunfinished)
  element_eq := h.element_eq
  quote_eq := h.quote_eq
  spans_le := fun _ => List.forall_mem_nil _
  idle_eq := nofun
  kept_eq := nofun

/-- The element at hand still starts at its first byte. -/
theorem Sound.element_look (h : Sound r) (hfeeding : r.feeding = true)
    (hlooks : r.scanner.Looks x) :
    (r.look x).elementAt = x.1.elementStart.map (r.gone + ·) := by
  have helement := h.element_eq
  rw [look]
  rcases hlooks.elementStart_eq with hnone | hsame | ⟨hnone, -, hbegins⟩
  · rw [hnone]
    rfl
  · rw [hsame]
    cases hstart : r.scanner.elementStart with
    | none => rfl
    | some start =>
      rw [hstart] at helement
      rw [helement]
      rfl
  · rw [hnone] at helement
    rw [hbegins, helement, Option.map_some, Option.map_some, h.position_eq (.inl hfeeding)]
    rfl

/-- An open string still starts at its quote. -/
theorem Sound.quote_look (h : Sound r) (hfeeding : r.feeding = true) (hlooks : r.scanner.Looks x)
    (hopen : x.1.inString = true) (hmembers : x.1.atMembers = true) :
    r.gone + x.1.stringStart = (r.look x).quoteAt := by
  rw [look, hopen]
  rcases hlooks.stringStart_eq hopen with ⟨hin, hsame, hstart⟩ | ⟨hout, hstart⟩
  · rw [hstart, hin]
    exact h.quote_eq hin (hsame.symm.trans hmembers)
  · rw [hstart, hout]
    exact h.position_eq (.inl hfeeding)

theorem Sound.look (h : Sound r) (hfeeding : r.feeding = true)
    (hbyte : r.scanner.buffer[r.scanner.position]? = some b) (hstep : r.scanner.step b = .ok x) :
    Sound (r.look x) := by
  have hlooks := looks_step hstep
  have hmoved : r.scanner.Moved x.1 := step_moved hstep
  obtain ⟨hlt, -⟩ := List.getElem?_eq_some_iff.1 hbyte
  refine ⟨hmoved.fits h.fits hlt, h.gone_le, hmoved.buffer_eq.trans h.buffer_eq, ?_,
    h.element_look hfeeding hlooks, h.quote_look hfeeding hlooks, ?_, ?_, ?_⟩
  · intro _
    change r.gone + x.1.position = r.looked + 1
    rw [hmoved.position_eq, ← Nat.add_assoc, h.position_eq (.inl hfeeding)]
  · intro _ part hpart
    change part.start ≤ part.stop ∧ part.stop ≤ x.1.buffer.length
    rw [hmoved.buffer_eq]
    rcases List.mem_append.1 hpart with hbefore | hnew
    · exact h.spans_le hfeeding part hbefore
    · obtain ⟨hstart, hstop⟩ := hlooks.span_eq (Option.mem_toList.1 hnew)
      have hbegun := h.fits.elementStart_lt part.start hstart
      omega
  · intro hidle
    exact absurd (hfeeding.symm.trans hidle) (by decide)
  · intro hidle
    exact absurd (hfeeding.symm.trans hidle) (by decide)

/-- Between two chunks, the buffer begins with the element or the name at hand, or is empty. -/
theorem Sound.kept_drop (h : Sound r) : r.drop.scanner.buffer = r.drop.needed := by
  have hbuffer : r.drop.scanner.buffer = r.received.drop (r.gone + r.scanner.keepFrom) := by
    rw [← List.drop_drop, ← h.buffer_eq]
    rfl
  have helement : r.drop.elementAt = r.scanner.elementStart.map (r.gone + ·) := h.element_eq
  rw [hbuffer, needed, helement, keepFrom]
  cases hstart : r.scanner.elementStart with
  | some start => rfl
  | none =>
    by_cases hname : (r.scanner.atMembers && r.scanner.inString) = true
    · obtain ⟨hmembers, hin⟩ := Bool.and_eq_true_iff.1 hname
      simp only [Option.map_none]
      rw [if_pos hname, h.quote_eq hin hmembers]
      exact (if_pos hname).symm
    · simp only [Option.map_none]
      rw [if_neg hname, ← List.drop_drop, ← h.buffer_eq, List.drop_length]
      exact (if_neg hname).symm

theorem Sound.gone_drop (h : Sound r) : r.drop.gone ≤ r.received.length := by
  have hkeep := h.fits.keepFrom_le_length
  have hgone := h.gone_le
  rw [h.buffer_eq, List.length_drop] at hkeep
  change r.gone + r.scanner.keepFrom ≤ r.received.length
  omega

theorem Sound.position_drop (h : Sound r) (hend : r.scanner.position = r.scanner.buffer.length)
    (hnot : r.scanner.phase ≠ .done) : r.drop.gone + r.drop.scanner.position = r.looked := by
  have hkeep := h.fits.keepFrom_le_length
  have hposition := h.position_eq (.inr hnot)
  change r.gone + r.scanner.keepFrom + (r.scanner.position - r.scanner.keepFrom) = r.looked
  omega

theorem Sound.element_drop (h : Sound r) :
    r.elementAt = r.drop.scanner.elementStart.map (r.drop.gone + ·) := by
  change r.elementAt = (r.scanner.elementStart.map _).map _
  rw [h.element_eq]
  cases hstart : r.scanner.elementStart with
  | none => rfl
  | some start =>
    have hfrom := h.fits.keepFrom_le.1 start hstart
    refine congrArg some ?_
    change r.gone + start = r.gone + r.scanner.keepFrom + (start - r.scanner.keepFrom)
    omega

theorem Sound.quote_drop (h : Sound r) (hin : r.scanner.inString = true)
    (hmembers : r.scanner.atMembers = true) :
    r.drop.gone + r.drop.scanner.stringStart = r.quoteAt := by
  have hfrom := h.fits.keepFrom_le.2 hin hmembers
  have hquote := h.quote_eq hin hmembers
  change r.gone + r.scanner.keepFrom + (r.scanner.stringStart - r.scanner.keepFrom) = r.quoteAt
  omega

/-- **The indices that are needed** are shifted by as much as was dropped. -/
theorem Sound.drop (h : Sound r) (hover : r.Over) : Sound r.drop := by
  have hend : r.scanner.phase ≠ .done → r.scanner.position = r.scanner.buffer.length :=
    fun hnot => Nat.le_antisymm h.fits.position_le (hover.resolve_left hnot)
  have hready := ready_compact h.fits hend
  refine ⟨hready.fits, h.gone_drop, ?_, ?_, h.element_drop, h.quote_drop, nofun,
    fun _ => hready.position_eq, fun _ => h.kept_drop⟩
  · change r.scanner.buffer.drop r.scanner.keepFrom = r.received.drop (r.gone + r.scanner.keepFrom)
    rw [h.buffer_eq, List.drop_drop]
  · intro hopen
    have hnot : r.scanner.phase ≠ .done := hopen.resolve_left nofun
    exact h.position_drop (hend hnot) hnot

theorem Step.sound (hstep : r.Step r') (h : Sound r) : Sound r' := by
  cases hstep with
  | receive chunk _ hunfinished => exact h.receive hunfinished chunk
  | look b x hfeeding _ hbyte hstep => exact h.look hfeeding hbyte hstep
  | drop _ _ hover => exact h.drop hover

/-- **In every run every index stands where it should.** -/
theorem Run.sound (hrun : Run r r') (h : Sound r) : Sound r' := by
  induction hrun with
  | refl => exact h
  | tail _ hstep ih => exact hstep.sound ih

/-! ## A chunk is a run -/

/-- **What taking a chunk does**: nothing behind the array, and else it is a run that looks at the
bytes, to the end or up to one that fails. -/
inductive Feeds (r : Reading) (chunk : Bytes) : Prop
  | finished (closed : r.scanner.phase = .done)
    (taken : r.scanner.feed chunk = .ok ([], r.scanner))
  | whole (r' : Reading) (unfinished : r.scanner.phase ≠ .done) (run : Run (r.receive chunk) r')
    (feeding : r'.feeding = true) (received : r'.received = r.received ++ chunk) (ended : r'.Over)
    (taken : r.scanner.feed chunk =
      (r'.spans.mapM r'.scanner.decodeSpan).map fun results => (results, r'.drop.scanner))
  | malformed (r' : Reading) (b : UInt8) (e : Error) (unfinished : r.scanner.phase ≠ .done)
    (run : Run (r.receive chunk) r') (feeding : r'.feeding = true)
    (byte : r'.scanner.buffer[r'.scanner.position]? = some b) (fails : r'.scanner.step b = .error e)
    (taken : r.scanner.feed chunk = .error e)

/-- How looking at the bytes that are left ends. -/
inductive Scans (r : Reading) (rest : Bytes) : Prop
  | whole (r' : Reading) (run : Run r r') (feeding : r'.feeding = true)
    (received : r'.received = r.received) (ended : r'.Over)
    (taken : r.scanner.scan r.spans.reverse rest = .ok (r'.scanner, r'.spans))
  | malformed (r' : Reading) (b : UInt8) (e : Error) (run : Run r r') (feeding : r'.feeding = true)
    (byte : r'.scanner.buffer[r'.scanner.position]? = some b) (fails : r'.scanner.step b = .error e)
    (taken : r.scanner.scan r.spans.reverse rest = .error e)

theorem scan_look (hdone : r.scanner.phase ≠ .done) (hstep : r.scanner.step b = .ok x)
    (rest : Bytes) :
    r.scanner.scan r.spans.reverse (b :: rest) =
      (r.look x).scanner.scan (r.look x).spans.reverse rest := by
  have hspans : x.2.toList ++ r.spans.reverse = (r.spans ++ x.2.toList).reverse := by
    cases x.2 <;> simp
  rw [scan, if_neg hdone, hstep]
  exact congrArg (x.1.scan · rest) hspans

theorem scans (rest : Bytes) {r : Reading} (hfeeding : r.feeding = true)
    (hrest : r.scanner.buffer.drop r.scanner.position = rest) : r.Scans rest := by
  induction rest generalizing r with
  | nil =>
    refine .whole r .refl hfeeding rfl (.inr (List.drop_eq_nil_iff.1 hrest)) ?_
    rw [scan, List.reverse_reverse]
  | cons b rest ih =>
    by_cases hdone : r.scanner.phase = .done
    · refine .whole r .refl hfeeding rfl (.inl hdone) ?_
      rw [scan, if_pos hdone, List.reverse_reverse]
    have hbyte : r.scanner.buffer[r.scanner.position]? = some b := by
      rw [← List.head?_drop, hrest, List.head?_cons]
    cases hstep : r.scanner.step b with
    | error e =>
      refine .malformed r b e .refl hfeeding hbyte hstep ?_
      rw [scan, if_neg hdone, hstep]
    | ok x =>
      have hmoved : r.scanner.Moved x.1 := step_moved hstep
      have hrest' : (r.look x).scanner.buffer.drop (r.look x).scanner.position = rest := by
        change x.1.buffer.drop x.1.position = rest
        rw [hmoved.buffer_eq, hmoved.position_eq, ← List.drop_drop, hrest, List.drop_one,
          List.tail_cons]
      have hscan := scan_look hdone hstep rest
      have hfirst : r.Step (r.look x) := .look b x hfeeding hdone hbyte hstep
      cases ih (r := r.look x) hfeeding hrest' with
      | whole r' hrun hfeeding' hreceived hover htaken =>
        exact .whole r' (.head hfirst hrun) hfeeding' hreceived hover (hscan.trans htaken)
      | malformed r' b' e hrun hfeeding' hbyte' hfails htaken =>
        exact .malformed r' b' e (.head hfirst hrun) hfeeding' hbyte' hfails (hscan.trans htaken)

theorem Sound.feeds (h : Sound r) (hidle : r.feeding = false) (chunk : Bytes) : r.Feeds chunk := by
  by_cases hdone : r.scanner.phase = .done
  · exact .finished hdone (if_pos hdone)
  have hrest : (r.scanner.buffer ++ chunk).drop r.scanner.position = chunk := by
    rw [h.idle_eq hidle, List.drop_left]
  have hfeed := feed_eq hdone (h.idle_eq hidle) chunk
  cases scans chunk (r := r.receive chunk) rfl hrest with
  | whole r' hrun hfeeding hreceived hover htaken =>
    refine .whole r' hdone hrun hfeeding hreceived hover (hfeed.trans ?_)
    change ((r.receive chunk).scanner.scan (r.receive chunk).spans.reverse chunk).bind _ = _
    rw [htaken]
    rfl
  | malformed r' b e hrun hfeeding hbyte hfails htaken =>
    refine .malformed r' b e hdone hrun hfeeding hbyte hfails (hfeed.trans ?_)
    change ((r.receive chunk).scanner.scan (r.receive chunk).spans.reverse chunk).bind _ = _
    rw [htaken]
    rfl

/-! ## One chunk after the other -/

theorem feedAll_of_done (hdone : s.phase = .done) (chunks : List Bytes) :
    s.feedAll chunks = .ok s := by
  induction chunks with
  | nil => rfl
  | cons chunk chunks ih =>
    rw [feedAll, feed, if_pos hdone]
    exact ih

/-- **A reading goes through one chunk after the other**, and receives them up to the end of the
array. -/
theorem run_feedAll (h : Sound r) (hidle : r.feeding = false)
    (hfeed : r.scanner.feedAll chunks = .ok s) :
    ∃ r', Run r r' ∧ r'.feeding = false ∧ r'.scanner = s ∧
      ∃ later, r.received ++ chunks.flatten = r'.received ++ later ∧
        (s.phase ≠ .done → later = []) := by
  induction chunks generalizing r with
  | nil =>
    cases hfeed
    exact ⟨r, .refl, hidle, rfl, [], rfl, fun _ => rfl⟩
  | cons chunk chunks ih =>
    by_cases hdone : r.scanner.phase = .done
    · rw [feedAll_of_done hdone] at hfeed
      cases hfeed
      exact ⟨r, .refl, hidle, rfl, _, rfl, fun hnot => absurd hdone hnot⟩
    rw [feedAll] at hfeed
    cases h.feeds hidle chunk with
    | finished hclosed => exact absurd hclosed hdone
    | malformed r' b e _ hrun hfeeding hbyte hfails htaken =>
      rw [htaken] at hfeed
      cases hfeed
    | whole r₁ _ hrun hfeeding hreceived hover htaken =>
      rw [htaken] at hfeed
      cases hdecoded : r₁.spans.mapM r₁.scanner.decodeSpan with
      | error e =>
        rw [hdecoded] at hfeed
        cases hfeed
      | ok results =>
        rw [hdecoded] at hfeed
        have hall : Run r r₁.drop :=
          (Relation.ReflTransGen.head (.receive chunk hidle hdone) hrun).tail
            (.drop results hfeeding hover hdecoded)
        obtain ⟨r', hrun', hidle', hscanner, later, hlater, hnothing⟩ :=
          ih (r := r₁.drop) (hall.sound h) rfl hfeed
        refine ⟨r', hall.trans hrun', hidle', hscanner, later, ?_, hnothing⟩
        rw [← hlater, List.flatten_cons, ← List.append_assoc, ← hreceived]
        rfl

/-! ## In bounds -/

/-- **No index is out of bounds, and none was cut off that is of use.** -/
structure InBounds (r : Reading) : Prop where
  /-- The buffer is what was received, without what was dropped. -/
  buffer : r.scanner.buffer = r.received.drop r.gone
  /-- The next byte comes in the buffer or right behind it.  It is the first that was not looked at,
  unless the array is closed and nothing is looked at any more. -/
  position : r.scanner.position ≤ r.scanner.buffer.length ∧
    (r.feeding = true ∨ r.scanner.phase ≠ .done → r.gone + r.scanner.position = r.looked)
  /-- Between two chunks the next byte comes right behind the buffer. -/
  between : r.feeding = false → r.scanner.position = r.scanner.buffer.length
  /-- The element at hand starts at its first byte, and the buffer holds what came since. -/
  element : ∀ start, r.scanner.elementStart = some start →
    start < r.scanner.position ∧ r.elementAt = some (r.gone + start) ∧
      r.scanner.buffer.drop start = r.received.drop (r.gone + start)
  /-- The elements that ended in this chunk lie in the buffer. -/
  spans : r.feeding = true →
    ∀ part ∈ r.spans, part.start ≤ part.stop ∧ part.stop ≤ r.scanner.buffer.length
  /-- The string at hand starts at its quote, where names stand. -/
  quote : r.scanner.inString = true → r.scanner.atMembers = true →
    r.scanner.stringStart < r.scanner.position ∧ r.gone + r.scanner.stringStart = r.quoteAt
  /-- A name that ends with the next byte lies in the buffer: it is what came between the quotes. -/
  name : r.scanner.inString = true → r.scanner.escaped = false → r.scanner.atMembers = true →
    r.scanner.buffer[r.scanner.position]? = some 0x22 →
    r.scanner.stringStart + 1 ≤ r.scanner.position ∧
      r.scanner.position < r.scanner.buffer.length ∧
      r.scanner.slice ⟨r.scanner.stringStart + 1, r.scanner.position⟩ =
        (r.received.take r.looked).drop (r.quoteAt + 1)
  /-- A closing bracket that does not fail closes one that is open. -/
  depth : ∀ b x, r.scanner.inString = false → b = 0x7d ∨ b = 0x5d → r.scanner.step b = .ok x →
    x.1.depth + 1 = r.scanner.depth
  /-- What is dropped lies in the buffer, and before every index that is of use. -/
  dropping : r.feeding = true → r.Over →
    r.scanner.keepFrom ≤ r.scanner.buffer.length ∧
      (r.scanner.phase ≠ .done → r.scanner.keepFrom ≤ r.scanner.position) ∧
      (∀ start, r.scanner.elementStart = some start → r.scanner.keepFrom ≤ start) ∧
      (r.scanner.inString = true → r.scanner.atMembers = true →
        r.scanner.keepFrom ≤ r.scanner.stringStart)

/-- A part of the buffer is a part of what was received. -/
theorem Sound.slice_eq (h : Sound r) (start stop : Nat) :
    r.scanner.slice ⟨start, stop⟩ = (r.received.take (r.gone + stop)).drop (r.gone + start) := by
  rw [slice, h.buffer_eq, List.take_drop, List.drop_drop]

theorem Sound.inBounds (h : Sound r) : r.InBounds where
  buffer := h.buffer_eq
  position := ⟨h.fits.position_le, h.position_eq⟩
  between := h.idle_eq
  element := by
    intro start hstart
    refine ⟨h.fits.elementStart_lt start hstart, ?_, ?_⟩
    · rw [h.element_eq, hstart]
      rfl
    · rw [h.buffer_eq, List.drop_drop]
  spans := h.spans_le
  quote := fun hin hmembers => ⟨h.fits.stringStart_lt hin hmembers, h.quote_eq hin hmembers⟩
  name := by
    intro hin _ hmembers hbyte
    obtain ⟨hlt, -⟩ := List.getElem?_eq_some_iff.1 hbyte
    have hnot : r.scanner.phase ≠ .done := by
      obtain ⟨hseeking, -⟩ := Bool.and_eq_true_iff.1 hmembers
      rw [beq_iff_eq.1 hseeking]
      decide
    refine ⟨h.fits.stringStart_lt hin hmembers, hlt, ?_⟩
    rw [h.slice_eq, h.position_eq (.inr hnot), ← Nat.add_assoc, h.quote_eq hin hmembers]
  depth := fun _ _ hout hbyte hstep => depth_step hout hbyte hstep
  dropping := by
    intro _ hover
    obtain ⟨helement, hname⟩ := h.fits.keepFrom_le
    refine ⟨h.fits.keepFrom_le_length, ?_, ?_, hname⟩
    · intro hnot
      exact Nat.le_trans h.fits.keepFrom_le_length (hover.resolve_left hnot)
    · intro start hstart
      exact Nat.le_of_eq (helement start hstart)

/-- **No index of a scanner is ever out of bounds.**  Whatever a scanner has received and looked at,
its indices lie in its buffer and stand where they should; and so it goes with every chunk that it
takes, and with every sequence of chunks. -/
theorem cursors_in_bounds :
    (∀ r, Run {} r → r.InBounds) ∧
      (∀ r chunk, Run {} r → r.feeding = false → r.Feeds chunk) ∧
      ∀ chunks s, feedAll {} chunks = .ok s →
        ∃ r, Run {} r ∧ r.feeding = false ∧ r.scanner = s ∧
          ∃ later, chunks.flatten = r.received ++ later ∧ (s.phase ≠ .done → later = []) := by
  refine ⟨?_, ?_, ?_⟩
  · intro r hrun
    exact (hrun.sound sound_empty).inBounds
  · intro r chunk hrun hidle
    exact (hrun.sound sound_empty).feeds hidle chunk
  · intro chunks s hfeed
    exact run_feedAll sound_empty rfl hfeed

/-- The beginning of a response, cut inside of the name. -/
def beginning : List Bytes :=
  [[0x7b, 0x22, 0x6f, 0x62], [0x6a, 0x65, 0x63, 0x74, 0x73, 0x22, 0x3a, 0x5b, 0x20, 0x7b]]

/-- An element that has just begun is all that is kept. -/
theorem cursors_in_bounds_beginning :
    ∃ s r, feedAll {} beginning = .ok s ∧ s.elementStart = some 0 ∧ s.buffer = [0x7b] ∧
      Run {} r ∧ r.scanner = s ∧ r.InBounds ∧ r.Feeds [0x7d] := by
  obtain ⟨hbounds, hfeeds, hchunks⟩ := cursors_in_bounds
  obtain ⟨r, hrun, hidle, hscanner, -⟩ := hchunks beginning _ rfl
  exact ⟨_, r, rfl, rfl, rfl, hrun, hscanner, hbounds r hrun, hfeeds r _ hrun hidle⟩

end Reading

end Scanner

end RegistryProxy
