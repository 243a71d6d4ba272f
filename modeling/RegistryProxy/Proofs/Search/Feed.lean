import RegistryProxy.Proofs.Search.Looks

/-!
# Proofs/Search/Feed — a chunk goes through the scanner as through its view

Every step moves the scanner on by one byte and keeps its indices in the buffer (`Moved`).  Between
two chunks the scanner has looked at all it has (`Ready`), and it takes a chunk as its view does
(`feed_view`): what it finds and what it is then in the midst of depend on the view and the chunk
alone.
-/

namespace RegistryProxy

namespace Scanner

variable {s s' : Scanner} {b : UInt8} {span : Option Span} {chunk : Bytes}

/-! ## What every step keeps -/

/-- **A step moves on by one byte**, and whatever is at hand then was at hand before, or begins with
that byte. -/
structure Moved (s s' : Scanner) : Prop where
  /-- The buffer stays. -/
  buffer_eq : s'.buffer = s.buffer
  /-- The next byte comes next. -/
  position_eq : s'.position = s.position + 1
  /-- An element was at hand or begins. -/
  elementStart : ∀ start, s'.elementStart = some start →
    s.elementStart = some start ∨ (start = s.position ∧ s.phase = .elements)
  /-- With an element at hand the array is not closed. -/
  phase_eq : s'.elementStart ≠ none → s.phase = .elements → s'.phase = .elements
  /-- A string was at hand, at the same place among the brackets, or begins. -/
  stringStart : s'.inString = true →
    (s.inString = true ∧ s'.atMembers = s.atMembers ∧ s'.stringStart = s.stringStart) ∨
      s'.stringStart = s.position

theorem Looks.moved {x : Scanner × Option Span} (h : s.Looks x) : s.Moved x.1 where
  buffer_eq := h.ahead_eq.1
  position_eq := h.ahead_eq.2
  elementStart start hstart := by
    rcases h.elementStart_eq with hnone | hsame | ⟨-, helements, hbegins⟩
    · cases hnone.symm.trans hstart
    · exact .inl (hsame.symm.trans hstart)
    · exact .inr ⟨Option.some.inj (hstart.symm.trans hbegins), helements⟩
  phase_eq := h.phase_eq
  stringStart hopen := (h.stringStart_eq hopen).imp id And.right

theorem step_moved (h : s.step b = .ok (s', span)) : s.Moved s' := (looks_step h).moved

/-- A step keeps the indices in the buffer. -/
theorem Moved.fits (hmoved : s.Moved s') (h : s.Fits) (hlt : s.position < s.buffer.length) :
    s'.Fits where
  position_le := by
    rw [hmoved.buffer_eq, hmoved.position_eq]
    exact hlt
  elementStart_lt start hstart := by
    rw [hmoved.position_eq]
    rcases hmoved.elementStart start hstart with hbefore | ⟨rfl, -⟩
    · have := h.elementStart_lt start hbefore
      omega
    · omega
  phase_eq start hstart := by
    refine hmoved.phase_eq (by simp [hstart]) ?_
    rcases hmoved.elementStart start hstart with hbefore | ⟨-, helements⟩
    · exact h.phase_eq start hbefore
    · exact helements
  stringStart_lt hstring hmembers := by
    rw [hmoved.position_eq]
    rcases hmoved.stringStart hstring with ⟨hbefore, hsame, heq⟩ | heq
    · have := h.stringStart_lt hbefore (hsame ▸ hmembers)
      omega
    · omega

/-! ## A chunk -/

/-- Parts of the buffer depend on nothing else. -/
theorem slice_congr (h : s'.buffer = s.buffer) : s'.slice = s.slice := by
  funext part
  rw [slice, slice, h]

/-- What a scan of the scanner gives, seen from its view. -/
def sight (s : Scanner) (x : Scanner × List Span) : View × List Bytes := (x.1.view, x.2.map s.slice)

/-- **Looking at bytes, a scanner moves like its view**, and looks at all of them, unless the array
is closed. -/
theorem scan_view (rest : Bytes) {s : Scanner} (found : List Span) (h : s.Fits)
    (hrest : s.buffer.drop s.position = rest) :
    ((s.scan found rest).map s.sight =
      (s.view.run rest).map fun x => (x.1, found.reverse.map s.slice ++ x.2)) ∧
    ∀ s' spans, s.scan found rest = .ok (s', spans) →
      s'.Fits ∧ s'.buffer = s.buffer ∧ (s'.phase ≠ .done → s'.position = s.buffer.length) := by
  induction rest generalizing s found with
  | nil =>
    refine ⟨?_, ?_⟩
    · simp [scan, View.run, sight, Except.map]
    · intro s' spans hscan
      cases hscan
      refine ⟨h, rfl, fun _ => Nat.le_antisymm h.position_le ?_⟩
      exact List.drop_eq_nil_iff.1 hrest
  | cons b rest ih =>
    have hbyte : s.buffer[s.position]? = some b := by
      rw [← List.head?_drop, hrest, List.head?_cons]
    obtain ⟨hlt, -⟩ := List.getElem?_eq_some_iff.1 hbyte
    have hrest' : s.buffer.drop (s.position + 1) = rest := by
      rw [← List.drop_drop, hrest, List.drop_one, List.tail_cons]
    rw [scan, View.run]
    by_cases hdone : s.phase = .done
    · rw [if_pos hdone, if_pos (c := s.view.phase = .done) hdone]
      refine ⟨by simp [sight, Except.map], ?_⟩
      intro s' spans hscan
      cases hscan
      exact ⟨h, rfl, fun hnot => absurd hdone hnot⟩
    rw [if_neg hdone, if_neg (c := s.view.phase = .done) hdone, ← step_view h hbyte]
    cases hstep : s.step b with
    | error e => exact ⟨rfl, nofun⟩
    | ok x =>
      obtain ⟨s₁, span⟩ := x
      have hmoved := step_moved hstep
      have hdrop : s₁.buffer.drop s₁.position = rest := by
        rw [hmoved.buffer_eq, hmoved.position_eq, hrest']
      obtain ⟨hview, hkept⟩ := ih (span.toList ++ found) (hmoved.fits h hlt) hdrop
      have hsight : s₁.sight = s.sight := by
        funext x
        rw [sight, sight, slice_congr hmoved.buffer_eq]
      rw [hsight, slice_congr hmoved.buffer_eq] at hview
      refine ⟨hview.trans ?_, ?_⟩
      · have hfound : (span.toList ++ found).reverse.map s.slice =
            found.reverse.map s.slice ++ (span.map s.slice).toList := by
          cases span <;> simp
        rw [hfound]
        change _ = ((s₁.view.run rest).bind _).map _
        cases s₁.view.run rest with
        | error e => rfl
        | ok y =>
          simp only [Except.map, List.append_assoc]
          rfl
      · intro s' spans hscan
        obtain ⟨hfits, hbuffer, hend⟩ := hkept s' spans hscan
        exact ⟨hfits, hbuffer.trans hmoved.buffer_eq, fun hnot => hmoved.buffer_eq ▸ hend hnot⟩

/-- **Between two chunks** a scanner has looked at all the bytes it keeps. -/
structure Ready (s : Scanner) : Prop where
  /-- The indices lie in the buffer. -/
  fits : s.Fits
  /-- No byte is left to look at. -/
  position_eq : s.position = s.buffer.length

theorem ready_empty : Ready {} := ⟨⟨Nat.le_refl _, nofun, nofun, nofun⟩, rfl⟩

/-- The scanner with a chunk behind its buffer. -/
abbrev extend (s : Scanner) (chunk : Bytes) : Scanner := { s with buffer := s.buffer ++ chunk }

/-- Bytes behind the buffer change nothing that is in it. -/
theorem view_extend (h : s.Fits) (chunk : Bytes) : (s.extend chunk).view = s.view := by
  have hslice : ∀ start, (s.extend chunk).slice ⟨start, s.position⟩ = s.slice ⟨start, s.position⟩ :=
    fun start => congrArg (List.drop start) (List.take_append_of_le_length h.position_le)
  simp only [view, hslice]
  rfl

theorem Fits.extend (h : s.Fits) (chunk : Bytes) : (s.extend chunk).Fits where
  position_le := by
    rw [List.length_append]
    exact Nat.le_trans h.position_le (Nat.le_add_right ..)
  elementStart_lt := h.elementStart_lt
  phase_eq := h.phase_eq
  stringStart_lt := h.stringStart_lt

/-- A part of the buffer that begins behind the bytes that go. -/
theorem slice_drop {gone start : Nat} (stop : Nat) (hstart : gone ≤ start) :
    ((s.buffer.drop gone).take (stop - gone)).drop (start - gone) = s.slice ⟨start, stop⟩ := by
  have hshift : gone + (start - gone) = start := by omega
  have hlength : stop - gone - (start - gone) = stop - start := by omega
  rw [slice, List.drop_take, List.drop_take, List.drop_drop, hshift, hlength]

/-- What is needed begins at the element at hand, and no later than the name at hand. -/
theorem Fits.keepFrom_le (h : s.Fits) :
    (∀ start, s.elementStart = some start → s.keepFrom = start) ∧
      (s.inString = true → s.atMembers = true → s.keepFrom ≤ s.stringStart) := by
  rw [keepFrom]
  split
  · next start hstart =>
    refine ⟨fun start' hstart' => Option.some.inj (hstart.symm.trans hstart'), ?_⟩
    intro _ hmembers
    rw [atMembers, h.phase_eq start hstart] at hmembers
    cases hmembers
  · next hnone =>
    refine ⟨fun start hstart => by simp [hnone] at hstart, ?_⟩
    intro hstring hmembers
    rw [hmembers, hstring]
    exact Nat.le_refl _

/-- **Dropping bytes changes nothing that is at hand.** -/
theorem view_compact (h : s.Fits) : s.compact.view = s.view := by
  obtain ⟨helement, hname⟩ := h.keepFrom_le
  have helements : s.compact.view.element = s.view.element := by
    simp only [view, compact, Option.map_map]
    cases hstart : s.elementStart with
    | none => rfl
    | some start =>
      have hgone := helement start hstart
      exact congrArg some (slice_drop _ (Nat.le_of_eq hgone))
  have hnames : s.compact.view.name = s.view.name := by
    by_cases hstring : (s.inString && s.atMembers) = true
    · have hboth := Bool.and_eq_true_iff.1 hstring
      have hgone := hname hboth.1 hboth.2
      have hshift : s.stringStart - s.keepFrom + 1 = s.stringStart + 1 - s.keepFrom := by omega
      have hslice : s.compact.slice ⟨s.stringStart - s.keepFrom + 1, s.position - s.keepFrom⟩ =
          s.slice ⟨s.stringStart + 1, s.position⟩ := by
        rw [hshift]
        exact slice_drop _ (by omega)
      have hcompact : (s.compact.inString && s.compact.atMembers) = true := hstring
      simp only [view]
      rw [if_pos hstring, if_pos hcompact]
      exact congrArg some hslice
    · have hcompact : ¬ (s.compact.inString && s.compact.atMembers) = true := hstring
      simp only [view]
      rw [if_neg hstring, if_neg hcompact]
  have hrest : s.compact.view =
      { s.view with element := s.compact.view.element, name := s.compact.view.name } := rfl
  rw [hrest, helements, hnames]

/-- After a chunk, nothing is kept but what is still needed. -/
theorem ready_compact (h : s.Fits) (hend : s.phase ≠ .done → s.position = s.buffer.length) :
    s.compact.Ready := by
  obtain ⟨helement, hname⟩ := h.keepFrom_le
  have hposition := h.position_le
  refine ⟨⟨?_, ?_, ?_, ?_⟩, ?_⟩
  · simp only [compact, List.length_drop]
    omega
  · intro start hstart
    obtain ⟨start', hstart', rfl⟩ := Option.map_eq_some_iff.1 hstart
    have hgone := helement start' hstart'
    have hlt := h.elementStart_lt start' hstart'
    simp only [compact]
    omega
  · intro start hstart
    obtain ⟨start', hstart', rfl⟩ := Option.map_eq_some_iff.1 hstart
    exact h.phase_eq start' hstart'
  · intro hstring hmembers
    have hgone := hname hstring hmembers
    have hlt := h.stringStart_lt hstring hmembers
    simp only [compact]
    omega
  · simp only [compact, List.length_drop]
    by_cases hdone : s.phase = .done
    · -- Behind the array nothing is needed any more.
      have hnone : s.elementStart = none := by
        cases hstart : s.elementStart with
        | none => rfl
        | some start => exact absurd (hdone.symm.trans (h.phase_eq start hstart)) (by decide)
      have hgone : s.keepFrom = s.buffer.length := by
        simp [keepFrom, hnone, atMembers, hdone]
      omega
    · rw [hend hdone]

/-- The result in the bytes of an element. -/
def decodeElement (element : Bytes) : Except Error SearchResult :=
  match SearchResult.decode element with
  | some r => .ok r
  | none => .error undecodable

/-- Takes the next bytes and gives the results that they complete. -/
def View.take (v : View) (chunk : Bytes) : Except Error (List SearchResult × View) := do
  let (v, elements) ← v.run chunk
  let results ← elements.mapM decodeElement
  return (results, v)

theorem View.run_of_done {v : View} (hdone : v.phase = .done) (chunk : Bytes) :
    v.run chunk = .ok (v, []) := by
  cases chunk with
  | nil => rfl
  | cons b rest => rw [run, if_pos hdone]

/-- A chunk is looked at, what ended is decoded, and what is not needed is dropped. -/
theorem feed_eq (hdone : s.phase ≠ .done) (hend : s.position = s.buffer.length) (chunk : Bytes) :
    s.feed chunk = ((s.extend chunk).scan [] chunk).bind fun x =>
      (x.2.mapM x.1.decodeSpan).map fun results => (results, x.1.compact) := by
  have hrest : (s.buffer ++ chunk).drop s.position = chunk := by rw [hend, List.drop_left]
  rw [feed, if_neg hdone]
  simp only [hrest]
  rfl

/-- **A scanner takes a chunk as its view does**, and is ready for the next one. -/
theorem feed_view (h : s.Ready) (chunk : Bytes) :
    ((s.feed chunk).map fun x => (x.1, x.2.view)) = s.view.take chunk ∧
      ∀ results s', s.feed chunk = .ok (results, s') → s'.Ready := by
  by_cases hdone : s.phase = .done
  · rw [feed, if_pos hdone, View.take, View.run_of_done hdone]
    refine ⟨rfl, ?_⟩
    intro results s' hfeed
    cases hfeed
    exact h
  rw [feed_eq hdone h.position_eq, View.take]
  have hrest : (s.extend chunk).buffer.drop (s.extend chunk).position = chunk := by
    simp only [h.position_eq, List.drop_left]
  obtain ⟨hview, hkept⟩ := scan_view chunk [] (h.fits.extend chunk) hrest
  rw [view_extend h.fits] at hview
  cases hscan : (s.extend chunk).scan [] chunk with
  | error e =>
    cases hrun : s.view.run chunk with
    | error e' =>
      obtain rfl : e = e' := by simpa [hscan, hrun, Except.map] using hview
      exact ⟨rfl, nofun⟩
    | ok y => simp [hscan, hrun, Except.map] at hview
  | ok x =>
    obtain ⟨s₁, spans⟩ := x
    obtain ⟨hfits, hbuffer, hend⟩ := hkept s₁ spans hscan
    have hready : s₁.compact.Ready := ready_compact hfits fun hnot => hbuffer ▸ hend hnot
    have hrun : s.view.run chunk = .ok (s₁.view, spans.map s₁.slice) := by
      rw [hscan] at hview
      rw [slice_congr hbuffer]
      cases hrun : s.view.run chunk with
      | error e => simp [hrun, Except.map] at hview
      | ok y => simpa [hrun, Except.map, sight, Prod.ext_iff, eq_comm] using hview
    have hdecode : (spans.map s₁.slice).mapM decodeElement = spans.mapM s₁.decodeSpan := by
      rw [List.mapM_map]
      rfl
    rw [hrun]
    change ((spans.mapM s₁.decodeSpan).map _).map _ =
      ((spans.map s₁.slice).mapM decodeElement).bind _ ∧ ∀ results s',
        (spans.mapM s₁.decodeSpan).map _ = _ → _
    rw [hdecode]
    cases spans.mapM s₁.decodeSpan with
    | error e => exact ⟨rfl, nofun⟩
    | ok results =>
      refine ⟨congrArg (fun v => Except.ok (results, v)) (view_compact hfits), ?_⟩
      intro results' s' hfeed
      cases hfeed
      exact hready

end Scanner

end RegistryProxy
