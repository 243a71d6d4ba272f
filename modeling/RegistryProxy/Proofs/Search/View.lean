import RegistryProxy.Search.Scanner

/-!
# Proofs/Search/View — the scanner without its buffer

A `View` is what a scanner has at hand: the bytes of the element and of the name that it is in the
midst of, instead of indices into a buffer.  It moves byte by byte (`View.step`), and a scanner
whose indices lie in its buffer (`Fits`) moves like its view (`step_view`).  Dropping bytes that are
no longer needed does not change the view (`view_compact`), so nothing that a scanner finds depends
on when that happens.
-/

namespace RegistryProxy

namespace Scanner

/-! ## The machine that moves byte by byte -/

/-- What a scanner has at hand between two bytes. -/
structure View where
  /-- How many brackets are open. -/
  depth : Nat := 0
  /-- Whether a string is open. -/
  inString : Bool := false
  /-- Whether the byte before was a backslash that counts. -/
  escaped : Bool := false
  /-- The last string of the outermost object, unless it was too long. -/
  lastString : Option Bytes := none
  /-- The name of the member at hand. -/
  key : Option Bytes := none
  /-- How far the scanner has come. -/
  phase : Phase := .seeking
  /-- The bytes of the element at hand. -/
  element : Option Bytes := none
  /-- The bytes of the string at hand, where names stand. -/
  name : Option Bytes := none
  deriving DecidableEq

namespace View

/-- Whether only the brackets around the elements are open. -/
def atElements (v : View) : Bool := v.phase == .elements && v.depth == elementDepth

/-- Whether the members of the outermost object are looked at. -/
def atMembers (v : View) : Bool := v.phase == .seeking && v.depth == 1

/-- The element at hand with one more byte. -/
def grown (v : View) (b : UInt8) : Option Bytes := v.element.map (· ++ [b])

/-- The element at hand with one more byte, which is its first if none is at hand. -/
def begun (v : View) (b : UInt8) : Option Bytes :=
  if v.atElements && v.element.isNone then some [b] else v.grown b

/-- A string that is short enough to be remembered. -/
def remembered (name : Bytes) : Option Bytes :=
  if name.length ≤ maxNameLength then some name else none

/-- A byte inside a string. -/
def stringByte (v : View) (b : UInt8) : View :=
  if v.escaped then
    { v with escaped := false, element := v.grown b, name := v.name.map (· ++ [b]) }
  else if b = 0x5c then
    { v with escaped := true, element := v.grown b, name := v.name.map (· ++ [b]) }
  else if b = 0x22 then
    { v with
      inString := false
      element := v.grown b
      name := none
      lastString := v.name.elim v.lastString remembered }
  else { v with element := v.grown b, name := v.name.map (· ++ [b]) }

/-- An opening bracket. -/
def openBracket (v : View) (b : UInt8) : View where
  depth := v.depth + 1
  inString := v.inString
  escaped := v.escaped
  lastString := v.lastString
  key := v.key
  phase :=
    if v.phase = .seeking ∧ b = 0x5b ∧ v.depth + 1 = elementDepth ∧ v.key = some arrayName then
      .elements
    else v.phase
  element := v.begun b
  name := v.name

/-- A closing bracket; an element that ends is given. -/
def closeBracket (v : View) (b : UInt8) : Except Error (View × Option Bytes) :=
  if v.depth = 0 then .error malformed
  else if v.atElements then
    .ok ({ v with phase := .done, depth := v.depth - 1, element := none }, v.element)
  else if { v with depth := v.depth - 1 : View }.atElements then
    .ok ({ v with depth := v.depth - 1, element := none }, v.grown b)
  else .ok ({ v with depth := v.depth - 1, element := v.grown b }, none)

/-- A colon. -/
def colon (v : View) (b : UInt8) : View :=
  if v.atMembers then { v with key := v.lastString, lastString := none, element := v.grown b }
  else { v with element := v.grown b }

/-- A comma; an element that ends is given. -/
def comma (v : View) (b : UInt8) : View × Option Bytes :=
  if v.atElements then ({ v with element := none }, v.element)
  else if v.atMembers then
    ({ v with key := none, lastString := none, element := v.grown b }, none)
  else ({ v with element := v.grown b }, none)

/-- **Moves on by one byte**; an element that ends is given. -/
def step (v : View) (b : UInt8) : Except Error (View × Option Bytes) :=
  if v.inString then .ok (v.stringByte b, none)
  else if b = 0x22 then
    .ok ({ v with
      inString := true
      element := v.begun b
      name := if v.atMembers then some [] else none }, none)
  else if b = 0x7b ∨ b = 0x5b then .ok (v.openBracket b, none)
  else if b = 0x7d ∨ b = 0x5d then v.closeBracket b
  else if b = 0x3a then .ok (v.colon b, none)
  else if b = 0x2c then .ok (v.comma b)
  else if Json.isSpace b then .ok ({ v with element := v.grown b }, none)
  else .ok ({ v with element := v.begun b }, none)

/-- **Moves on until the array is closed**, and gives the elements that ended, in order. -/
def run (v : View) : Bytes → Except Error (View × List Bytes)
  | [] => .ok (v, [])
  | b :: rest =>
    if v.phase = .done then .ok (v, [])
    else do
      let (v, ended) ← v.step b
      let (v, elements) ← v.run rest
      return (v, ended.toList ++ elements)

/-- Whether a response may end here. -/
def mayEnd (v : View) : Bool :=
  match v.phase with
  | .done => true
  | .seeking => v.depth == 0 && !v.inString
  | .elements => false

end View

variable {s : Scanner} {b : UInt8} {i : Nat}

/-- What a scanner has at hand. -/
def view (s : Scanner) : View where
  depth := s.depth
  inString := s.inString
  escaped := s.escaped
  lastString := s.lastString
  key := s.key
  phase := s.phase
  element := s.elementStart.map fun start => s.slice ⟨start, s.position⟩
  name :=
    if s.inString && s.atMembers then some (s.slice ⟨s.stringStart + 1, s.position⟩) else none

/-- **The indices of a scanner lie in its buffer**, before the byte that comes next. -/
structure Fits (s : Scanner) : Prop where
  /-- The next byte comes in the buffer or right behind it. -/
  position_le : s.position ≤ s.buffer.length
  /-- The element at hand has begun, -/
  elementStart_lt : ∀ start, s.elementStart = some start → start < s.position
  /-- and inside the array. -/
  phase_eq : ∀ start, s.elementStart = some start → s.phase = .elements
  /-- The name at hand has begun. -/
  stringStart_lt : s.inString = true → s.atMembers = true → s.stringStart < s.position

/-! ## Parts of the buffer -/

theorem slice_succ {start : Nat} (hstart : start ≤ s.position)
    (hbyte : s.buffer[s.position]? = some b) :
    s.slice ⟨start, s.position + 1⟩ = s.slice ⟨start, s.position⟩ ++ [b] := by
  obtain ⟨hlt, rfl⟩ := List.getElem?_eq_some_iff.1 hbyte
  have hlength : start ≤ (s.buffer.take s.position).length := by
    rw [List.length_take]
    omega
  rw [slice, slice, List.take_add_one, hbyte, Option.toList_some,
    List.drop_append_of_le_length hlength]

theorem slice_self (i : Nat) : s.slice ⟨i, i⟩ = [] :=
  List.drop_eq_nil_of_le (List.length_take_le ..)

/-- Where the element at hand starts once the byte at `i` belongs to one. -/
def startedAt (s : Scanner) (i : Nat) : Option Nat :=
  if s.atElements && s.elementStart.isNone then some i else s.elementStart

theorem startElement_eq (s : Scanner) (i : Nat) :
    s.startElement i = { s with elementStart := s.startedAt i } := by
  rw [startElement, startedAt]
  split <;> rfl

theorem atElements_view (s : Scanner) : s.view.atElements = s.atElements := rfl

theorem atMembers_view (s : Scanner) : s.view.atMembers = s.atMembers := rfl

/-- The element at hand, one byte further. -/
theorem grown_view (h : s.Fits) (hbyte : s.buffer[s.position]? = some b) :
    (s.elementStart.map fun start => s.slice ⟨start, s.position + 1⟩) = s.view.grown b := by
  cases hstart : s.elementStart with
  | none => simp [View.grown, view, hstart]
  | some start =>
    have hle := Nat.le_of_lt (h.elementStart_lt start hstart)
    simp [View.grown, view, hstart, slice_succ hle hbyte]

/-- The element at hand or begun, one byte further. -/
theorem begun_view (h : s.Fits) (hbyte : s.buffer[s.position]? = some b) :
    ((s.startedAt s.position).map fun start => s.slice ⟨start, s.position + 1⟩) =
      s.view.begun b := by
  have hnone : s.view.element.isNone = s.elementStart.isNone := by simp [view]
  rw [startedAt, View.begun, atElements_view, hnone]
  split
  · rw [Option.map_some, slice_succ (Nat.le_refl _) hbyte, slice_self, List.nil_append]
  · exact grown_view h hbyte

/-- The name at hand, one byte further. -/
theorem name_view (h : s.Fits) (hbyte : s.buffer[s.position]? = some b)
    (hstring : s.inString = true) :
    (if s.atMembers then some (s.slice ⟨s.stringStart + 1, s.position + 1⟩) else none) =
      s.view.name.map (· ++ [b]) := by
  simp only [view, hstring, Bool.true_and]
  split
  · next hmembers => rw [Option.map_some, slice_succ (h.stringStart_lt hstring hmembers) hbyte]
  · rfl

/-! ## The scanner moves like its view -/

/-- The scanner that looks at the next byte. -/
abbrev ahead (s : Scanner) : Scanner := { s with position := s.position + 1 }

theorem view_stringByte (h : s.Fits) (hbyte : s.buffer[s.position]? = some b)
    (hstring : s.inString = true) :
    (s.ahead.stringByte s.position b).view = s.view.stringByte b := by
  have hgrown := grown_view h hbyte
  have hname := name_view h hbyte hstring
  have hcontents : s.view.name =
      if s.atMembers then some (s.slice ⟨s.stringStart + 1, s.position⟩) else none := by
    simp only [view, hstring, Bool.true_and]
  rw [stringByte, View.stringByte, ← hgrown, ← hname]
  by_cases hescaped : s.escaped = true
  · rw [if_pos (c := s.ahead.escaped = true) hescaped, if_pos (c := s.view.escaped = true) hescaped]
    simp only [view, hstring, Bool.true_and]
    rfl
  rw [if_neg (c := s.ahead.escaped = true) hescaped, if_neg (c := s.view.escaped = true) hescaped]
  by_cases hslash : b = 0x5c
  · rw [if_pos hslash, if_pos hslash]
    simp only [view, hstring, Bool.true_and]
    rfl
  rw [if_neg hslash, if_neg hslash]
  by_cases hquote : b = 0x22
  · rw [if_pos hquote, if_pos hquote, hcontents]
    by_cases hmembers : s.atMembers = true
    · have hahead : { s.ahead with inString := false }.atMembers = true := hmembers
      simp only [hahead, hmembers, if_true]
      rfl
    · have hahead : ¬ { s.ahead with inString := false }.atMembers = true := hmembers
      simp only [if_neg hahead, if_neg hmembers]
      rfl
  · rw [if_neg hquote, if_neg hquote]
    simp only [view, hstring, Bool.true_and]
    rfl

/-- Outside of strings no name is at hand. -/
theorem name_of_not_string (hstring : s.inString = false) : s.view.name = none := by
  simp only [view, hstring, Bool.false_and, Bool.false_eq_true, if_false]

theorem openBracket_eq (s : Scanner) (i : Nat) (b : UInt8) :
    s.openBracket i b = {
      s with
      depth := s.depth + 1
      elementStart := s.startedAt i
      phase :=
        if s.phase = .seeking ∧ b = 0x5b ∧ s.depth + 1 = elementDepth ∧ s.key = some arrayName then
          .elements
        else s.phase } := by
  simp only [openBracket, startElement_eq]
  split <;> rfl

theorem view_openBracket (h : s.Fits) (hbyte : s.buffer[s.position]? = some b)
    (hstring : s.inString = false) :
    (s.ahead.openBracket s.position b).view = s.view.openBracket b := by
  have hbegun := begun_view h hbyte
  rw [openBracket_eq, View.openBracket, ← hbegun, name_of_not_string hstring]
  simp only [view, hstring]
  rfl

/-- A quote opens a string, which is a name where names stand. -/
theorem view_quote (h : s.Fits) (hbyte : s.buffer[s.position]? = some b) :
    ({ s.ahead with inString := true, stringStart := s.position }.startElement s.position).view =
      { s.view with
        inString := true
        element := s.view.begun b
        name := if s.view.atMembers then some [] else none } := by
  have hbegun := begun_view h hbyte
  have hempty : s.slice ⟨s.position + 1, s.position + 1⟩ = [] := slice_self _
  rw [startElement_eq, ← hbegun, atMembers_view, ← hempty]
  rfl

theorem view_startElement (h : s.Fits) (hbyte : s.buffer[s.position]? = some b)
    (hstring : s.inString = false) :
    (s.ahead.startElement s.position).view = { s.view with element := s.view.begun b } := by
  have hbegun := begun_view h hbyte
  rw [startElement_eq, ← hbegun]
  simp only [view, hstring]
  rfl

/-- A byte that means nothing belongs to the element at hand. -/
theorem view_ahead (h : s.Fits) (hbyte : s.buffer[s.position]? = some b)
    (hstring : s.inString = false) :
    s.ahead.view = { s.view with element := s.view.grown b } := by
  have hgrown := grown_view h hbyte
  rw [← hgrown]
  simp only [view, hstring]
  rfl

theorem view_colon (h : s.Fits) (hbyte : s.buffer[s.position]? = some b)
    (hstring : s.inString = false) : s.ahead.colon.view = s.view.colon b := by
  have hgrown := grown_view h hbyte
  rw [colon, View.colon, ← hgrown]
  by_cases hmembers : s.atMembers = true
  · rw [if_pos (c := s.ahead.atMembers = true) hmembers,
      if_pos (c := s.view.atMembers = true) hmembers]
    simp only [view, hstring]
    rfl
  · rw [if_neg (c := s.ahead.atMembers = true) hmembers,
      if_neg (c := s.view.atMembers = true) hmembers]
    simp only [view, hstring]
    rfl

/-- The element at hand ends before the byte at hand. -/
theorem ended_view (s : Scanner) :
    (s.elementStart.map fun start => (⟨start, s.position⟩ : Span)).map s.slice =
      s.view.element := by
  rw [Option.map_map]
  rfl

/-- The element at hand ends with the byte at hand. -/
theorem ended_with_view (h : s.Fits) (hbyte : s.buffer[s.position]? = some b) :
    (s.elementStart.map fun start => (⟨start, s.position + 1⟩ : Span)).map s.slice =
      s.view.grown b := by
  rw [Option.map_map]
  exact grown_view h hbyte

/-- Elements stand where no names do. -/
theorem not_atMembers (helements : s.atElements = true) : ¬ s.atMembers = true := by
  intro hmembers
  simp only [atElements, atMembers, Bool.and_eq_true, beq_iff_eq] at helements hmembers
  exact absurd (helements.1.symm.trans hmembers.1) (by decide)

theorem view_endElement (hstring : s.inString = false) :
    { s.ahead with elementStart := none }.view = { s.view with element := none } := by
  simp only [view, hstring]
  rfl

theorem view_comma (h : s.Fits) (hbyte : s.buffer[s.position]? = some b)
    (hstring : s.inString = false) :
    ((s.ahead.comma s.position).1.view, (s.ahead.comma s.position).2.map s.slice) =
      s.view.comma b := by
  have hgrown := grown_view h hbyte
  rw [comma, View.comma]
  by_cases helements : s.atElements = true
  · have hmembers := not_atMembers helements
    simp only [if_neg (c := s.ahead.atMembers = true) hmembers]
    rw [if_pos (c := s.ahead.atElements = true) helements,
      if_pos (c := s.view.atElements = true) helements, ← view_endElement hstring, ← ended_view]
    rfl
  rw [if_neg (c := s.view.atElements = true) helements, ← hgrown]
  by_cases hmembers : s.atMembers = true
  · have helements' : ¬ { s.ahead with key := none, lastString := none }.atElements = true :=
      helements
    simp only [if_pos (c := s.ahead.atMembers = true) hmembers, if_neg helements',
      if_pos (c := s.view.atMembers = true) hmembers]
    simp only [view, hstring]
    rfl
  · simp only [if_neg (c := s.ahead.atMembers = true) hmembers,
      if_neg (c := s.ahead.atElements = true) helements,
      if_neg (c := s.view.atMembers = true) hmembers]
    simp only [view, hstring]
    rfl

/-- What a step of the scanner gives, seen from its view. -/
def seen (s : Scanner) (x : Scanner × Option Span) : View × Option Bytes :=
  (x.1.view, x.2.map s.slice)

theorem view_closeBracket (h : s.Fits) (hbyte : s.buffer[s.position]? = some b)
    (hstring : s.inString = false) :
    (s.ahead.closeBracket s.position).map s.seen = s.view.closeBracket b := by
  have hgrown := grown_view h hbyte
  rw [closeBracket, View.closeBracket]
  by_cases hdepth : s.depth = 0
  · rw [if_pos (c := s.ahead.depth = 0) hdepth, if_pos (c := s.view.depth = 0) hdepth]
    rfl
  rw [if_neg (c := s.ahead.depth = 0) hdepth, if_neg (c := s.view.depth = 0) hdepth]
  by_cases helements : s.atElements = true
  · rw [if_pos (c := s.ahead.atElements = true) helements,
      if_pos (c := s.view.atElements = true) helements, ← ended_view]
    simp only [view, hstring, endElement]
    rfl
  rw [if_neg (c := s.ahead.atElements = true) helements,
    if_neg (c := s.view.atElements = true) helements]
  by_cases hclosed : { s with depth := s.depth - 1 }.atElements = true
  · have hahead : { s.ahead with depth := s.ahead.depth - 1 }.atElements = true := hclosed
    rw [if_pos (c := { s.view with depth := s.view.depth - 1 : View }.atElements = true) hclosed,
      ← ended_with_view h hbyte]
    simp only [if_pos hahead]
    simp only [view, hstring, endElement]
    rfl
  · have hahead : ¬ { s.ahead with depth := s.ahead.depth - 1 }.atElements = true := hclosed
    rw [if_neg (c := { s.view with depth := s.view.depth - 1 : View }.atElements = true) hclosed,
      ← hgrown]
    simp only [if_neg hahead]
    simp only [view, hstring]
    rfl

/-- **A scanner moves like its view.** -/
theorem step_view (h : s.Fits) (hbyte : s.buffer[s.position]? = some b) :
    (s.step b).map s.seen = s.view.step b := by
  rw [step, look, View.step]
  by_cases hstring : s.inString = true
  · rw [if_pos (c := s.ahead.inString = true) hstring, if_pos (c := s.view.inString = true) hstring,
      ← view_stringByte h hbyte hstring]
    rfl
  rw [if_neg (c := s.ahead.inString = true) hstring, if_neg (c := s.view.inString = true) hstring]
  have hstring : s.inString = false := by simpa using hstring
  by_cases hquote : b = 0x22
  · rw [if_pos hquote, if_pos hquote, ← view_quote h hbyte]
    rfl
  rw [if_neg hquote, if_neg hquote]
  by_cases hopen : b = 0x7b ∨ b = 0x5b
  · rw [if_pos hopen, if_pos hopen, ← view_openBracket h hbyte hstring]
    rfl
  rw [if_neg hopen, if_neg hopen]
  by_cases hclose : b = 0x7d ∨ b = 0x5d
  · rw [if_pos hclose, if_pos hclose]
    exact view_closeBracket h hbyte hstring
  rw [if_neg hclose, if_neg hclose]
  by_cases hcolon : b = 0x3a
  · rw [if_pos hcolon, if_pos hcolon, ← view_colon h hbyte hstring]
    rfl
  rw [if_neg hcolon, if_neg hcolon]
  by_cases hcomma : b = 0x2c
  · rw [if_pos hcomma, if_pos hcomma, ← view_comma h hbyte hstring]
    rfl
  rw [if_neg hcomma, if_neg hcomma]
  by_cases hspace : Json.isSpace b = true
  · rw [if_pos hspace, if_pos hspace, ← view_ahead h hbyte hstring]
    rfl
  · rw [if_neg hspace, if_neg hspace, ← view_startElement h hbyte hstring]
    rfl

end Scanner

end RegistryProxy
