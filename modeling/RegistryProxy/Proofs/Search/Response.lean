import RegistryProxy.Proofs.Search.Run

/-!
# Proofs/Search/Response — what a response holds, and what its chunks let through

The elements that bytes complete (`elements`), and the failure that a response ends with
(`failure`), are told by the bytes alone.  A chunk that completes an element that is no result gives
nothing at all, so the results come from the chunks before it (`leading`), and from nothing else
(`itemsOf_eq`).  The cuts matter for exactly those responses that hold results before such an
element (`exists_cut`).
-/

namespace RegistryProxy

namespace Scanner

/-! ## What the bytes tell -/

/-- Whether an element is a result. -/
def decodes (element : Bytes) : Bool := (SearchResult.decode element).isSome

/-- The elements that bytes complete from the start of a response, in order. -/
def elements (bytes : Bytes) : List Bytes :=
  match View.run {} bytes with
  | .error _ => []
  | .ok (_, found) => found

/-- The results that bytes complete. -/
def results (bytes : Bytes) : List SearchResult := (elements bytes).filterMap SearchResult.decode

/-- Whether all elements that bytes complete are results. -/
def intact (bytes : Bytes) : Bool := (elements bytes).all decodes

/-- **How a response ends**, if not well. -/
def failure (bytes : Bytes) : Option Error :=
  match View.run {} bytes with
  | .error e => some e
  | .ok (v, found) =>
    if found.all decodes then if v.mayEnd then none else some cutShort else some undecodable

/-- **The chunks before the one that completes an element that is no result**, as bytes.  `seen`
holds those before `chunks`. -/
def leading (seen : Bytes) : List Bytes → Bytes
  | [] => seen
  | chunk :: rest => if intact (seen ++ chunk) then leading (seen ++ chunk) rest else seen

/-- Whether there is nothing that a chunk could take away: no result stands before an element that
is none. -/
def Even (bytes : Bytes) : Prop :=
  intact bytes = true ∨ ∃ element, (elements bytes).head? = some element ∧ decodes element = false

variable {bytes seen : Bytes} {v v' : View} {found : List Bytes} {e : Error}

theorem elements_of_ok (h : View.run {} bytes = .ok (v, found)) : elements bytes = found := by
  rw [elements, h]

theorem elements_of_error (h : View.run {} bytes = .error e) : elements bytes = [] := by
  rw [elements, h]

/-- **More bytes complete more elements**, and never other ones. -/
theorem elements_grow (bytes more : Bytes) : elements bytes <+: elements (bytes ++ more) := by
  cases hrun : View.run {} bytes with
  | error e =>
    rw [elements_of_error hrun]
    exact List.nil_prefix
  | ok x =>
    obtain ⟨v, found⟩ := x
    have happend := View.run_append_of_ok hrun more
    rw [elements_of_ok hrun]
    cases hmore : v.run more with
    | error e =>
      rw [View.found_eq_nil View.settled_empty hrun hmore]
      exact List.nil_prefix
    | ok y =>
      rw [hmore] at happend
      rw [elements_of_ok happend]
      exact List.prefix_append ..

theorem intact_of_append {more : Bytes} (h : intact (bytes ++ more) = true) :
    intact bytes = true := by
  rw [intact, List.all_eq_true] at h ⊢
  exact fun element helement => h element ((elements_grow bytes more).subset helement)

/-! ## What the chunks let through -/

theorem leading_front (seen : Bytes) (chunks : List Bytes) :
    ∃ rest, leading seen chunks ++ rest = seen ++ chunks.flatten := by
  induction chunks generalizing seen with
  | nil => exact ⟨[], rfl⟩
  | cons chunk rest ih =>
    rw [leading, List.flatten_cons]
    split
    · rw [← List.append_assoc]
      exact ih (seen ++ chunk)
    · exact ⟨chunk ++ rest.flatten, rfl⟩

theorem intact_leading (hseen : intact seen = true) (chunks : List Bytes) :
    intact (leading seen chunks) = true := by
  induction chunks generalizing seen with
  | nil => exact hseen
  | cons chunk rest ih =>
    rw [leading]
    split
    · next hchunk => exact ih hchunk
    · exact hseen

/-- Nothing holds the chunks of an intact response back. -/
theorem leading_of_intact {chunks : List Bytes} (h : intact (seen ++ chunks.flatten) = true) :
    leading seen chunks = seen ++ chunks.flatten := by
  induction chunks generalizing seen with
  | nil => exact (List.append_nil seen).symm
  | cons chunk rest ih =>
    rw [List.flatten_cons, ← List.append_assoc] at h ⊢
    rw [leading, if_pos (intact_of_append h)]
    exact ih h

theorem elements_leading (chunks : List Bytes) :
    elements (leading [] chunks) <+: elements chunks.flatten := by
  obtain ⟨rest, hrest⟩ := leading_front [] chunks
  rw [List.nil_append] at hrest
  rw [← hrest]
  exact elements_grow _ rest

theorem results_length (h : intact bytes = true) :
    (results bytes).length = (elements bytes).length := by
  rw [intact, List.all_eq_true] at h
  rw [results, List.length_filterMap_eq_countP]
  exact List.countP_eq_length.2 h

/-- **Two ways to cut a response let the same through** if they let as much through. -/
theorem leading_eq_iff {chunks others : List Bytes} (h : chunks.flatten = others.flatten) :
    results (leading [] chunks) = results (leading [] others) ↔
      (elements (leading [] chunks)).length = (elements (leading [] others)).length := by
  have hchunks : intact (leading [] chunks) = true := intact_leading rfl chunks
  have hothers : intact (leading [] others) = true := intact_leading rfl others
  constructor
  · intro heq
    rw [← results_length hchunks, ← results_length hothers, heq]
  · intro hlength
    have hprefix := elements_leading others
    rw [← h] at hprefix
    have hsame := (List.prefix_of_prefix_length_le (elements_leading chunks) hprefix
      (Nat.le_of_eq hlength)).eq_of_length hlength
    rw [results, results, hsame]

/-- Whatever the cuts, an even response lets the same through. -/
theorem Even.leading_eq (heven : Even bytes) {chunks : List Bytes} (h : chunks.flatten = bytes) :
    elements (leading [] chunks) = if intact bytes then elements bytes else [] := by
  subst h
  split
  · next hintact => exact congrArg elements (leading_of_intact hintact)
  next hnot =>
  obtain hintact | ⟨element, hhead, helement⟩ := heven
  · exact absurd hintact hnot
  -- What is let through begins like the response, but holds results only.
  have hleading : intact (leading [] chunks) = true := intact_leading rfl chunks
  obtain ⟨others, hothers⟩ := elements_leading chunks
  rw [intact, List.all_eq_true] at hleading
  cases hfound : elements (leading [] chunks) with
  | nil => rfl
  | cons first rest =>
    rw [hfound] at hothers hleading
    rw [← hothers] at hhead
    obtain rfl : first = element := Option.some.inj hhead
    have hfirst := hleading first List.mem_cons_self
    rw [helement] at hfirst
    cases hfirst

/-- **A response that is not even can be cut in two ways that differ**: not at all, and behind its
first element. -/
theorem exists_cut (h : ¬ Even bytes) :
    ∃ front back, front ++ back = bytes ∧
      results (leading [] [bytes]) ≠ results (leading [] [front, back]) := by
  obtain ⟨hintact, hhead⟩ := not_or.1 h
  cases hrun : View.run {} bytes with
  | error e => exact absurd (by rw [intact, elements_of_error hrun]; rfl) hintact
  | ok x =>
    obtain ⟨v, found⟩ := x
    have hfound := elements_of_ok hrun
    cases found with
    | nil => exact absurd (by rw [intact, hfound]; rfl) hintact
    | cons first rest =>
      have hfirst : decodes first = true := by
        rw [hfound] at hhead
        refine Bool.of_not_eq_false fun hnot => hhead ⟨first, rfl, hnot⟩
      obtain ⟨front, back, v₁, rfl, hfront⟩ := View.exists_first hrun
      refine ⟨front, back, rfl, ?_⟩
      intro heq
      have hfront : elements front = [first] := elements_of_ok hfront
      have hwhole : leading [] [front ++ back] = [] := if_neg hintact
      have hcut : leading [] [front, back] = front := by
        have hone : intact front = true := by
          rw [intact, hfront, List.all_cons, hfirst]
          rfl
        rw [leading, List.nil_append, if_pos hone, leading, if_neg hintact]
      have hlength := (leading_eq_iff (by simp)).1 heq
      rw [hwhole, hcut, hfront] at hlength
      cases hlength

/-! ## The items, chunk by chunk -/

/-- **What a scanner with this view will give** for the rest of a response. -/
def View.itemsOf (v : View) : List Bytes → List (Except Error SearchResult)
  | [] => if v.mayEnd then [] else [.error cutShort]
  | chunk :: rest =>
    match v.take chunk with
    | .error e => [.error e]
    | .ok (found, v) => found.map .ok ++ v.itemsOf rest

/-- The results and, last, the failure. -/
def items (found : List SearchResult) (failed : Option Error) : List (Except Error SearchResult) :=
  found.map .ok ++ failed.toList.map .error

/-- Elements are decoded all together. -/
theorem mapM_decodeElement (found : List Bytes) :
    found.mapM decodeElement =
      if found.all decodes then .ok (found.filterMap SearchResult.decode)
      else .error undecodable := by
  induction found with
  | nil => rfl
  | cons element rest ih =>
    rw [List.mapM_cons, List.all_cons, decodes, decodeElement, ih]
    cases hdecode : SearchResult.decode element with
    | none => rfl
    | some r =>
      rw [List.filterMap_cons_some hdecode, Option.isSome_some, Bool.true_and]
      by_cases hrest : rest.all decodes = true
      · rw [if_pos hrest, if_pos hrest]
        rfl
      · rw [if_neg hrest, if_neg hrest]
        rfl

theorem take_of_ok {chunk : Bytes} (h : v.run chunk = .ok (v', found)) :
    v.take chunk =
      if found.all decodes then .ok (found.filterMap SearchResult.decode, v')
      else .error undecodable := by
  rw [View.take, h]
  change (found.mapM decodeElement).bind _ = _
  rw [mapM_decodeElement]
  split <;> rfl

/-- **The items of a response**: the results of the leading chunks, and then the failure that its
bytes tell. -/
theorem itemsOf_eq (hrun : View.run {} seen = .ok (v, found)) (hfound : found.all decodes = true)
    (chunks : List Bytes) :
    (results seen).map .ok ++ v.itemsOf chunks =
      items (results (leading seen chunks)) (failure (seen ++ chunks.flatten)) := by
  induction chunks generalizing seen v found with
  | nil =>
    rw [View.itemsOf, leading, List.flatten_nil, List.append_nil, failure, hrun, items]
    dsimp only
    rw [if_pos hfound]
    split <;> rfl
  | cons chunk rest ih =>
    rw [View.itemsOf, leading, List.flatten_cons, ← List.append_assoc]
    have happend := View.run_append_of_ok hrun chunk
    cases hchunk : v.run chunk with
    | error e =>
      rw [hchunk] at happend
      have hnone := View.found_eq_nil View.settled_empty hrun hchunk
      have htake : v.take chunk = .error e := by
        rw [View.take, hchunk]
        rfl
      have hwhole := View.run_append_of_error happend rest.flatten
      have hempty : elements (leading (seen ++ chunk) rest) = [] := by
        obtain ⟨more, hmore⟩ := leading_front (seen ++ chunk) rest
        have hprefix := elements_grow (leading (seen ++ chunk) rest) more
        rw [hmore, elements_of_error hwhole] at hprefix
        exact List.prefix_nil.1 hprefix
      have hintact : intact (seen ++ chunk) = true := by
        rw [intact, elements_of_error happend]
        rfl
      rw [htake, if_pos hintact, results, elements_of_ok hrun, hnone, results, hempty, failure,
        hwhole]
      rfl
    | ok x =>
      obtain ⟨v', others⟩ := x
      rw [hchunk] at happend
      have helements := elements_of_ok happend
      rw [take_of_ok hchunk]
      by_cases hothers : others.all decodes = true
      · have hall : (found ++ others).all decodes = true := by
          rw [List.all_append, hfound, hothers]
          rfl
        have hintact : intact (seen ++ chunk) = true := by
          rw [intact, helements]
          exact hall
        have hresults : results (seen ++ chunk) =
            results seen ++ others.filterMap SearchResult.decode := by
          rw [results, results, helements, elements_of_ok hrun]
          exact List.filterMap_append
        rw [if_pos hothers, if_pos hintact, ← ih happend hall, hresults, List.map_append]
        exact (List.append_assoc ..).symm
      · have hall : ¬ (found ++ others).all decodes = true := by
          rw [List.all_append, hfound]
          exact hothers
        have hintact : ¬ intact (seen ++ chunk) = true := by
          rw [intact, helements]
          exact hall
        -- The element that is no result has ended, so the brackets cannot fail any more.
        have hfailure : failure (seen ++ chunk ++ rest.flatten) = some undecodable := by
          have hwhole := View.run_append_of_ok happend rest.flatten
          cases hrest : v'.run rest.flatten with
          | error e =>
            have hnone := View.found_eq_nil View.settled_empty happend hrest
            exact absurd (by rw [hnone]; rfl) hall
          | ok y =>
            rw [hrest] at hwhole
            rw [failure, hwhole]
            refine if_neg fun h => hall ?_
            rw [List.all_append] at h
            exact (Bool.and_eq_true_iff.1 h).1
        rw [if_neg hothers, if_neg hintact, hfailure]
        rfl

/-- The items of a response from its start. -/
theorem itemsOf_empty (chunks : List Bytes) :
    View.itemsOf {} chunks = items (results (leading [] chunks)) (failure chunks.flatten) := by
  have hstart : View.run {} [] = .ok ({}, []) := rfl
  exact itemsOf_eq hstart rfl chunks

end Scanner

end RegistryProxy
