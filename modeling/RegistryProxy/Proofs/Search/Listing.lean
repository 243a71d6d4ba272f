import RegistryProxy.Proofs.Json.Reading
import RegistryProxy.Proofs.Search.Chunking
import RegistryProxy.Proofs.Search.Walk

/-!
# Proofs/Search/Listing — the scanner finds what a reader of the whole document finds

A `Listing` is a response read as a whole: the members of the outermost object, and the items of the
first of them that is spelled `objects` and has an array.  The scanner walks over the members before
the array and over what is inside its items, so it hands out those items and nothing else, however
the response is cut; and a response that breaks off gives the items that it holds whole, and then
tells so (`agrees_with_reader`).
-/

namespace RegistryProxy

namespace Json.Tree

/-- Whether items stand between brackets. -/
def isArray : Tree → Bool
  | .array _ => true
  | _ => false

/-- Whether members stand between braces. -/
def isObject : Tree → Bool
  | .object _ => true
  | _ => false

end Json.Tree

namespace Json

variable {depth : Nat} {t : Tree} {value : Bytes}

theorem ofNumeral_no_container (n : Numeral) :
    (Tree.ofNumeral n).isArray = false ∧ (Tree.ofNumeral n).isObject = false := by
  rw [Tree.ofNumeral]
  cases n.value? <;> exact ⟨rfl, rfl⟩

theorem ofPieces_no_container (pieces : List Piece) :
    (Tree.ofPieces pieces).isArray = false ∧ (Tree.ofPieces pieces).isObject = false := by
  rw [Tree.ofPieces]
  cases pieceText pieces <;> exact ⟨rfl, rfl⟩

/-- An array is spelled as a row of items. -/
theorem Spelled.row_of_isArray (h : Spelled depth t value) (ht : t.isArray = true) :
    ∃ entries row, t = .ofItems entries ∧ value = 0x5b :: (row ++ [0x5d]) ∧
      Row false (depth - 1) true entries row := by
  cases h with
  | @array _ entries row hrow =>
    rw [Tree.within] at ht ⊢
    split at ht
    · cases ht
    next hdepth =>
    rw [if_neg hdepth]
    exact ⟨entries, row, rfl, rfl, hrow⟩
  | object => 
    rw [Tree.within] at ht
    split at ht <;> cases ht
  | number => cases (ofNumeral_no_container _).1.symm.trans ht
  | text => cases (ofPieces_no_container _).1.symm.trans ht
  | _ => cases ht

/-- An object is spelled as a row of members. -/
theorem Spelled.row_of_isObject (h : Spelled depth t value) (ht : t.isObject = true) :
    ∃ entries row, value = 0x7b :: (row ++ [0x7d]) ∧ Row true (depth - 1) true entries row := by
  cases h with
  | object hrow => exact ⟨_, _, rfl, hrow⟩
  | array =>
    rw [Tree.within] at ht
    split at ht <;> cases ht
  | number => cases (ofNumeral_no_container _).2.symm.trans ht
  | text => cases (ofPieces_no_container _).2.symm.trans ht
  | _ => cases ht

/-- What is no array does not begin like one. -/
theorem Spelled.head_ne_of_not_isArray (h : Spelled (depth + 1) t value)
    (ht : t.isArray = false) : value.head? ≠ some 0x5b := by
  cases h with
  | array => cases ht
  | number numeral =>
    intro hhead
    have hmem := List.mem_of_mem_head? hhead
    have hplain := Scanner.View.plain_numeral numeral _ hmem
    exact absurd hplain (by decide)
  | _ => exact nofun

end Json

/-- Whether a member holds the array: it is spelled `objects`, and it has an array. -/
def holdsArray (e : Json.Entry) : Bool := e.name == Scanner.arrayName && e.tree.isArray

/-- **A response read as a whole.** -/
structure Listing where
  /-- The text behind the brace that opens the outermost object. -/
  inside : Bytes
  /-- The members of the outermost object. -/
  members : List Json.Entry
  /-- The items of the array. -/
  items : List Json.Entry
  /-- The text behind the bracket that closes the array. -/
  after : Bytes

namespace Listing

/-- Reads the items of an array. -/
def readArray (fuel : Nat) (start : Bytes) : Option (List Json.Entry × Bytes) :=
  match Json.skipSpace start with
  | 0x5b :: bytes => Json.readEntries false fuel Json.maxDepth true bytes
  | _ => none

/-- **Reads a response as a document**, and the items of the first array that is spelled `objects`
in it. -/
def ofText? (text : Bytes) : Option Listing :=
  match Json.skipSpace text with
  | 0x7b :: inside => do
    let fuel := 2 * text.length + 1
    let (members, behind) ← Json.readEntries true fuel (Json.maxDepth + 1) true inside
    guard (Json.skipSpace behind).isEmpty
    let e ← members.find? holdsArray
    let (items, after) ← readArray fuel e.start
    return { inside, members, items, after }
  | _ => none

end Listing

namespace Scanner

namespace View

open Json (Blank Label readEntries)

variable {v : View} {first : Bool} {fuel depth : Nat} {bytes rest : Bytes}

/-! ## The members before the array -/

/-- **Among the members of the outermost object.** -/
structure Outer (v : View) : Prop extends Inner v where
  /-- The array has not been found, -/
  phase_eq : v.phase = .seeking
  /-- one brace is open, -/
  depth_eq : v.depth = 1
  /-- and no element is at hand. -/
  element_eq : v.element = none

/-- The view with another name and another last string. -/
def rename (v : View) (key last : Option Bytes) : View := { v with key, lastString := last }

theorem outer_start : Outer { depth := 1 } :=
  ⟨⟨rfl, rfl, rfl, .inl ⟨rfl, Nat.le_refl _⟩⟩, rfl, rfl, rfl⟩

namespace Outer

theorem rename (h : v.Outer) (key last : Option Bytes) : (v.rename key last).Outer :=
  ⟨⟨h.inString_eq, h.escaped_eq, h.name_eq, h.low⟩, h.phase_eq, h.depth_eq, h.element_eq⟩

theorem atMembers_eq (h : v.Outer) : v.atMembers = true := by
  rw [atMembers, h.phase_eq, h.depth_eq]
  rfl

theorem past_eq (h : v.Outer) (bytes : Bytes) (last : Option Bytes) :
    v.past bytes last = v.rename v.key last := by
  rw [past, h.element_eq, Option.map_none, View.rename, ← h.element_eq]

theorem walk_spaces (h : v.Outer) (hblank : Blank bytes) : Walk v bytes v := by
  have hwalk := h.toInner.walk_blank hblank
  rwa [grow_of_none h.element_eq h.name_eq] at hwalk

theorem walk_separator (h : v.Outer) (first : Bool) :
    ∃ key last, Walk v (Json.separator first) (v.rename key last) := by
  cases first with
  | true => exact ⟨v.key, v.lastString, .nil v⟩
  | false =>
    refine ⟨none, none, .one h.mayEnd_eq ?_⟩
    rw [step, if_neg (Bool.eq_false_iff.1 h.inString_eq)]
    change Except.ok (v.comma 0x2c) = _
    rw [comma, if_neg (Bool.eq_false_iff.1 h.atElements_eq), if_pos h.atMembers_eq, grown,
      h.element_eq, Option.map_none, View.rename, ← h.element_eq]

theorem walk_nameEnd (h : v.Outer) : Walk v [0x3a] (v.rename v.lastString none) := by
  refine .one h.mayEnd_eq ?_
  rw [step, if_neg (Bool.eq_false_iff.1 h.inString_eq)]
  change Except.ok (v.colon 0x3a, none) = _
  rw [colon, if_pos h.atMembers_eq, grown, h.element_eq, Option.map_none, View.rename,
    ← h.element_eq]

/-- **A label makes its name the one at hand**, if it is short enough. -/
theorem walk_name (h : v.Outer) {name label : Bytes} (hlabel : Label true name label) :
    Walk v label (v.rename (remembered name) none) := by
  cases hlabel with | @member _ before after pieces hbefore hquoted hafter =>
  have hstring := h.walk_string hquoted
  rw [if_pos h.atMembers_eq, h.past_eq] at hstring
  have h' := h.rename v.key (remembered name)
  have hcolon := (hstring.append (h'.walk_spaces hafter)).append h'.walk_nameEnd
  have hsplit : before ++ 0x22 :: (name ++ 0x22 :: (after ++ [0x3a])) =
      before ++ (0x22 :: (name ++ [0x22]) ++ after ++ [0x3a]) := by simp
  rw [hsplit]
  exact (h.walk_spaces hbefore).append hcolon

/-- Up to its value, a member is walked over. -/
theorem walk_to_value (h : v.Outer) (first : Bool) {name before label : Bytes}
    (hbefore : Blank before) (hlabel : Label true name label) :
    Walk v (before ++ (Json.separator first ++ label)) (v.rename (remembered name) none) := by
  obtain ⟨key, last, hseparator⟩ := h.walk_separator first
  exact (h.walk_spaces hbefore).append (hseparator.append ((h.rename key last).walk_name hlabel))

end Outer

theorem remembered_eq {name : Bytes} (h : remembered name = some arrayName) : name = arrayName := by
  rw [remembered] at h
  split at h
  · exact Option.some.inj h
  · cases h

/-- **The members before the array are walked over**, up to the array. -/
theorem walk_members {front back : List Json.Entry} {e : Json.Entry}
    (hread : readEntries true fuel (depth + 1) first bytes = some (front ++ e :: back, rest))
    (hfront : ∀ x ∈ front, holdsArray x = false) (h : v.Outer) :
    ∃ before v', bytes = before ++ e.start ∧ Walk v before v' ∧ v'.Outer ∧
      v'.key = remembered e.name := by
  induction front generalizing v fuel first bytes with
  | nil =>
    obtain ⟨hnil, -⟩ | ⟨e', more, before, label, less, hentries, -, hbefore, hlabel, rfl, -, -⟩ :=
      Json.readEntries_cases hread
    · cases hnil
    cases hentries
    have hwalk := h.walk_to_value first hbefore hlabel
    exact ⟨before ++ (Json.separator first ++ label), v.rename (remembered e.name) none, by simp,
      hwalk, h.rename _ none, rfl⟩
  | cons x front ih =>
    obtain ⟨hnil, -⟩ | ⟨e', more, before, label, less, hentries, -, hbefore, hlabel, rfl, hvalue,
      hmore⟩ := Json.readEntries_cases hread
    · cases hnil
    cases hentries
    obtain ⟨gap, hgap, hstart, hspelled⟩ := Json.Entry.text_spelled hvalue
    have hwalk := h.walk_to_value first hbefore hlabel
    have h := h.rename (remembered x.name) none
    -- It is not the array, so the scanner does not take it for one.
    have hopens : (v.rename (remembered x.name) none).atMembers = true →
        remembered x.name = some arrayName → x.text.head? ≠ some 0x5b := by
      intro _ hkey
      refine hspelled.head_ne_of_not_isArray ?_
      have hx := hfront x List.mem_cons_self
      rwa [holdsArray, remembered_eq hkey, beq_self_eq_true, Bool.true_and] at hx
    obtain ⟨last, hpast, -⟩ := walk_value hspelled h.toInner hopens
    rw [h.past_eq] at hpast
    have hspaces := h.walk_spaces hgap
    obtain ⟨before', v', hrest, hwalk', houter, hkey⟩ :=
      ih hmore (fun y hy => hfront y (List.mem_cons_of_mem x hy))
        (h.rename (v.rename (remembered x.name) none).key last)
    refine ⟨_, v', ?_, hwalk.append (hspaces.append (hpast.append hwalk')), houter, hkey⟩
    rw [hstart, hrest]
    simp

/-! ## The items of the array -/

/-- A text that breaks off before the end of its front. -/
theorem cut_before {cut more front rest : Bytes} (h : cut ++ more = front ++ rest)
    (hle : rest.length ≤ more.length) : ∃ back, front = cut ++ back := by
  have hlength := congrArg List.length h
  rw [List.length_append, List.length_append] at hlength
  have hfront : front <+: cut ++ more := h ▸ List.prefix_append front rest
  obtain ⟨back, hback⟩ := List.prefix_of_prefix_length_le (List.prefix_append cut more) hfront
    (by omega)
  exact ⟨back, hback.symm⟩

/-- A text that breaks off behind its front. -/
theorem cut_behind {cut more front rest : Bytes} (h : cut ++ more = front ++ rest)
    (hle : more.length ≤ rest.length) : ∃ cut', cut = front ++ cut' ∧ rest = cut' ++ more := by
  obtain ⟨cut', rfl⟩ := cut_before h.symm hle
  rw [List.append_assoc, List.append_cancel_left_eq] at h
  exact ⟨cut', rfl, h.symm⟩

/-- **Between the elements of the array.** -/
structure Between (v : View) : Prop where
  /-- No string is open, -/
  inString_eq : v.inString = false
  /-- so nothing is escaped, -/
  escaped_eq : v.escaped = false
  /-- and no name is at hand. -/
  name_eq : v.name = none
  /-- The array has been found, -/
  phase_eq : v.phase = .elements
  /-- two brackets are open, -/
  depth_eq : v.depth = elementDepth
  /-- and no element is at hand. -/
  element_eq : v.element = none

/-- The bracket of the array leads to its elements. -/
theorem Outer.step_array (h : v.Outer) (hkey : v.key = some arrayName) :
    ∃ v', v.step 0x5b = .ok (v', none) ∧ v'.Between := by
  have hphase : v.phase = .seeking ∧ (0x5b : UInt8) = 0x5b ∧ v.depth + 1 = elementDepth ∧
      v.key = some arrayName := ⟨h.phase_eq, rfl, by rw [h.depth_eq]; rfl, hkey⟩
  refine ⟨v.openBracket 0x5b, ?_, h.inString_eq, h.escaped_eq, h.name_eq, if_pos hphase,
    hphase.2.2.1, ?_⟩
  · rw [step, if_neg (Bool.eq_false_iff.1 h.inString_eq)]
    rfl
  · rw [openBracket, h.begun_eq, grown, h.element_eq]
    rfl

namespace Between

theorem atElements_eq (h : v.Between) : v.atElements = true :=
  atElements_iff.2 ⟨h.phase_eq, h.depth_eq⟩

theorem mayEnd_eq (h : v.Between) : v.mayEnd = false := by
  rw [mayEnd, h.phase_eq]

theorem walk_spaces (h : v.Between) (hblank : Blank bytes) : Walk v bytes v := by
  have hwalk := View.walk_blank hblank h.mayEnd_eq h.inString_eq h.name_eq
  rwa [grow_of_none h.element_eq h.name_eq] at hwalk

theorem walk_separator (h : v.Between) (first : Bool) : Walk v (Json.separator first) v := by
  cases first with
  | true => exact .nil v
  | false =>
    refine .one h.mayEnd_eq ?_
    rw [step, if_neg (Bool.eq_false_iff.1 h.inString_eq)]
    change Except.ok (v.comma 0x2c) = _
    rw [comma, if_pos h.atElements_eq, h.element_eq, ← h.element_eq]

theorem step_end (h : v.Between) : ∃ v', v.step 0x5d = .ok (v', none) ∧ v'.phase = .done := by
  have hdepth : v.depth ≠ 0 := by
    rw [h.depth_eq]
    exact nofun
  refine ⟨{ v with phase := .done, depth := v.depth - 1, element := none }, ?_, rfl⟩
  rw [step, if_neg (Bool.eq_false_iff.1 h.inString_eq)]
  change v.closeBracket 0x5d = _
  rw [closeBracket, if_neg hdepth, if_pos h.atElements_eq, h.element_eq]

/-- **An object is an element**: up to its brace it is walked over, and the brace ends it. -/
theorem walk_object (h : v.Between) {t : Json.Tree} {value : Bytes}
    (hvalue : Json.Spelled depth t value) (ht : t.isObject = true) :
    ∃ front v', value = front ++ [0x7d] ∧ Walk v front v' ∧ v'.mayEnd = false ∧
      v'.step 0x7d = .ok (v, some value) := by
  obtain ⟨entries, row, rfl, hrow⟩ := hvalue.row_of_isObject ht
  let opened : View := { v with depth := v.depth + 1, element := some [0x7b] }
  have hopen : v.step 0x7b = .ok (opened, none) := by
    have hphase : ¬ (v.phase = .seeking ∧ (0x7b : UInt8) = 0x5b ∧ v.depth + 1 = elementDepth ∧
        v.key = some arrayName) := fun hnot => absurd hnot.2.1 (by decide)
    rw [step, if_neg (Bool.eq_false_iff.1 h.inString_eq)]
    change Except.ok (v.openBracket 0x7b, none) = _
    rw [openBracket, if_neg hphase, begun, h.atElements_eq, h.element_eq]
    rfl
  have hinner : opened.Inner :=
    ⟨h.inString_eq, h.escaped_eq, h.name_eq,
      .inr ⟨h.phase_eq, Nat.succ_le_succ (Nat.le_of_eq h.depth_eq.symm)⟩⟩
  have hmembers : opened.atMembers = false := by
    rw [atMembers, h.phase_eq]
    rfl
  have hclose := (hinner.grow row).step_closing_element (b := 0x7d) (.inl rfl) h.atElements_eq
  rw [hinner.grow_eq] at hclose
  refine ⟨0x7b :: row, opened.past row opened.lastString, rfl, ?_, ?_, hclose.trans ?_⟩
  · rw [← hinner.grow_eq]
    exact .cons h.mayEnd_eq hopen (walk_row hrow hinner hmembers)
  · rw [← hinner.grow_eq]
    exact (hinner.grow row).mayEnd_eq
  · change Except.ok (View.mk v.depth v.inString v.escaped v.lastString v.key v.phase none v.name,
      some (0x7b :: (row ++ [0x7d]))) = _
    rw [← h.element_eq]

/-- An item that is an object is an element. -/
theorem walk_item (h : v.Between) (first : Bool) {e : Json.Entry} {before label : Bytes}
    (hbefore : Blank before) (hlabel : Label false e.name label)
    (hvalue : Json.Tree.readValue fuel depth e.start = some (e.tree, e.rest))
    (ht : e.tree.isObject = true) :
    ∃ front v', before ++ (Json.separator first ++ (label ++ e.start)) = front ++ 0x7d :: e.rest ∧
      Walk v front v' ∧ v'.mayEnd = false ∧ v'.step 0x7d = .ok (v, some e.text) := by
  obtain ⟨gap, hgap, hstart, hspelled⟩ := Json.Entry.text_spelled hvalue
  obtain ⟨front, v', htext, hfront, hamid, hstep⟩ := h.walk_object hspelled ht
  have hname : label = [] := by
    generalize e.name = name at hlabel
    cases hlabel
    rfl
  refine ⟨before ++ (Json.separator first ++ (gap ++ front)), v', ?_, ?_, hamid, hstep⟩
  · rw [hname, hstart, htext]
    simp
  · exact (h.walk_spaces hbefore).append
      ((h.walk_separator first).append ((h.walk_spaces hgap).append hfront))

/-- **The elements that end are the items**, and then the array ends. -/
theorem run_items (h : v.Between) {items : List Json.Entry}
    (hread : readEntries false fuel depth first bytes = some (items, rest))
    (hitems : ∀ e ∈ items, e.tree.isObject = true) :
    ∃ v', v.run bytes = .ok (v', items.map Json.Entry.text) ∧ v'.phase = .done := by
  induction items generalizing fuel first bytes with
  | nil =>
    obtain ⟨-, blank, hblank, rfl⟩ | ⟨_, _, _, _, _, hnil, -⟩ := Json.readEntries_cases hread
    · obtain ⟨v', hstep, hdone⟩ := h.step_end
      refine ⟨v', ?_, hdone⟩
      rw [run_append_of_ok (h.walk_spaces hblank).run_eq, run, if_neg (not_done h.mayEnd_eq)]
      change (((v.step 0x5d).bind _).map _ : Except Error (View × List Bytes)) = _
      rw [hstep]
      change (((v'.run rest).bind _).map _ : Except Error (View × List Bytes)) = _
      rw [run_of_done hdone]
      rfl
    · cases hnil
  | cons e items ih =>
    obtain ⟨hnil, -⟩ | ⟨e', more, before, label, less, hentries, -, hbefore, hlabel, rfl, hvalue,
      hmore⟩ := Json.readEntries_cases hread
    · cases hnil
    cases hentries
    obtain ⟨front, v₁, hsplit, hfront, hamid, hstep⟩ := h.walk_item first hbefore hlabel
      hvalue (hitems e List.mem_cons_self)
    obtain ⟨v', hrun, hdone⟩ := ih hmore fun x hx => hitems x (List.mem_cons_of_mem e hx)
    refine ⟨v', ?_, hdone⟩
    rw [hsplit, hfront.run_ended hamid hstep, hrun]
    rfl

/-- **Inside the array, the elements that end are the items whose last byte has come.** -/
theorem run_items_cut (h : v.Between) {items : List Json.Entry} {cut more : Bytes}
    (hread : readEntries false fuel depth first (cut ++ more) = some (items, rest))
    (hitems : ∀ e ∈ items, e.tree.isObject = true) (hmore : rest.length < more.length) :
    ∃ v', v.run cut = .ok (v', (items.filter fun e => more.length ≤ e.rest.length).map
      Json.Entry.text) ∧ v'.mayEnd = false := by
  induction items generalizing fuel first cut with
  | nil =>
    obtain ⟨-, blank, hblank, hsplit⟩ | ⟨_, _, _, _, _, hnil, -⟩ := Json.readEntries_cases hread
    · obtain ⟨back, rfl⟩ := cut_before hsplit hmore
      obtain ⟨v', hwalk, hamid⟩ := (h.walk_spaces hblank).cut_amid h.mayEnd_eq
      exact ⟨v', hwalk.run_eq, hamid⟩
    · cases hnil
  | cons e items ih =>
    obtain ⟨hnil, -⟩ | ⟨e', _, before, label, less, hentries, -, hbefore, hlabel, hsplit, hvalue,
      hread'⟩ := Json.readEntries_cases hread
    · cases hnil
    cases hentries
    obtain ⟨front, v₁, hitem, hfront, hamid, hstep⟩ := h.walk_item first hbefore hlabel
      hvalue (hitems e List.mem_cons_self)
    rw [hitem] at hsplit
    by_cases hle : more.length ≤ e.rest.length
    · -- The item has come whole.
      have hsplit' : cut ++ more = (front ++ [0x7d]) ++ e.rest := by rw [hsplit]; simp
      obtain ⟨cut', rfl, hrest⟩ := cut_behind hsplit' hle
      rw [hrest] at hread'
      obtain ⟨v', hrun, hamid'⟩ := ih hread' fun x hx => hitems x (List.mem_cons_of_mem e hx)
      refine ⟨v', ?_, hamid'⟩
      rw [List.append_assoc, List.cons_append, List.nil_append, hfront.run_ended hamid hstep, hrun,
        List.filter_cons_of_pos (by simpa using hle)]
      rfl
    · -- The response breaks off inside it, or before it.
      obtain ⟨back, rfl⟩ := cut_before hsplit (Nat.lt_of_not_le hle)
      obtain ⟨v', hwalk, hamid'⟩ := hfront.cut_amid hamid
      refine ⟨v', ?_, hamid'⟩
      rw [hwalk.run_eq, List.filter_eq_nil_iff.2]
      · rfl
      · intro x hx hx'
        have hx' : more.length ≤ x.rest.length := of_decide_eq_true hx'
        rcases List.mem_cons.1 hx with rfl | hx
        · exact hle hx'
        · obtain ⟨hstart, hrest, -⟩ := Json.mem_readEntries hread' x hx
          omega

end Between

/-! ## The whole response -/

/-- Up to its first brace, a response only opens that. -/
theorem run_start {blank : Bytes} (h : Blank blank) (bytes : Bytes) :
    run {} (blank ++ 0x7b :: bytes) = run { depth := 1 } bytes := by
  induction blank with
  | nil =>
    change (run { depth := 1 } bytes).bind _ = _
    cases run { depth := 1 } bytes <;> rfl
  | cons b blank ih =>
    have hstep : step {} b = .ok ({}, none) := by
      rw [step_plain rfl (plain_of_isSpace (h b List.mem_cons_self)),
        if_pos (h b List.mem_cons_self)]
      rfl
    rw [List.cons_append, run, if_neg (by decide), hstep]
    change (run {} _).bind _ = _
    rw [ih fun x hx => h x (List.mem_cons_of_mem b hx)]
    cases run { depth := 1 } bytes <;> rfl

end View

end Scanner

namespace Listing

open Scanner (View)

variable {text : Bytes} {l : Listing}

/-- What is read where. -/
theorem ofText?_cases (h : ofText? text = some l) :
    ∃ fuel blank behind front e back gap array, 2 * text.length + 1 ≤ fuel ∧ Json.Blank blank ∧
      text = blank ++ 0x7b :: l.inside ∧ Json.skipSpace behind = [] ∧
      Json.readEntries true fuel (Json.maxDepth + 1) true l.inside = some (l.members, behind) ∧
      l.members = front ++ e :: back ∧ (∀ x ∈ front, holdsArray x = false) ∧
      holdsArray e = true ∧ Json.Blank gap ∧ e.start = gap ++ 0x5b :: array ∧
      Json.readEntries false fuel Json.maxDepth true array = some (l.items, l.after) := by
  rw [ofText?] at h
  split at h
  · next inside hspace =>
    obtain ⟨⟨members, behind⟩, hmembers, h⟩ := Option.bind_eq_some_iff.1 h
    obtain ⟨_, hguard, h⟩ := Option.bind_eq_some_iff.1 h
    obtain ⟨e, hfind, h⟩ := Option.bind_eq_some_iff.1 h
    obtain ⟨⟨items, after⟩, hitems, h⟩ := Option.bind_eq_some_iff.1 h
    cases h
    rw [readArray] at hitems
    split at hitems
    · next array hbracket =>
      obtain ⟨blank, hblank, htext⟩ := Json.exists_blank_of_skipSpace hspace
      obtain ⟨gap, hgap, hstart⟩ := Json.exists_blank_of_skipSpace hbracket
      obtain ⟨he, front, back, hsplit, hfront⟩ := List.find?_eq_some_iff_append.1 hfind
      exact ⟨_, blank, behind, front, e, back, gap, array, Nat.le_refl _, hblank, htext,
        List.isEmpty_iff.1 (Json.of_guard hguard), hmembers, hsplit,
        fun x hx => by simpa using hfront x hx, he, hgap, hstart, hitems⟩
    · cases hitems
  · cases h

/-- **A document whose outermost object has the array**: a member that is spelled `objects` and has
an array. -/
def HasArray (text : Bytes) : Prop :=
  ∃ before members row behind, Json.Blank before ∧ Json.Blank behind ∧
    text = before ++ 0x7b :: (row ++ 0x7d :: behind) ∧
    Json.Row true (Json.maxDepth + 1) true members row ∧
    ∃ e ∈ members, e.1 = Scanner.arrayName ∧ e.2.isArray = true

theorem holdsArray_iff {e : Json.Entry} :
    holdsArray e = true ↔ e.name = Scanner.arrayName ∧ e.tree.isArray = true := by
  rw [holdsArray, Bool.and_eq_true, beq_iff_eq]

/-- The items of an array are read where it starts. -/
theorem exists_readArray {e : Json.Entry} {less fuel : Nat}
    (hvalue : Json.Tree.readValue less (Json.maxDepth + 1) e.start = some (e.tree, e.rest))
    (harray : e.tree.isArray = true) (hfuel : 2 * e.start.length ≤ fuel) :
    ∃ items, readArray fuel e.start = some (items, e.rest) ∧
      e.tree = .array (items.map Json.Entry.tree) := by
  obtain ⟨gap, hgap, hstart, hspelled⟩ := Json.Entry.text_spelled hvalue
  obtain ⟨entries, row, htree, htext, hrow⟩ := hspelled.row_of_isArray harray
  rw [htext] at hstart
  rw [hstart] at hfuel
  simp only [List.length_append, List.length_cons, List.cons_append] at hfuel
  obtain ⟨items, hread, rfl⟩ := Json.readEntries_of_row hrow fuel (by omega) e.rest
  refine ⟨items, ?_, ?_⟩
  · rw [readArray, hstart, Json.skipSpace_append hgap, List.cons_append,
      Json.skipSpace_cons (by decide), List.append_assoc]
    exact hread
  · rw [htree, Json.Tree.ofItems, List.map_map]
    rfl

/-- **Every such document is read.** -/
theorem exists_of_hasArray (h : HasArray text) : ∃ l, ofText? text = some l := by
  obtain ⟨before, members, row, behind, hbefore, hbehind, htext, hrow, x, hx, hname, harray⟩ := h
  have hfuel : 2 * row.length + 1 ≤ 2 * text.length + 1 := by
    rw [htext]
    simp only [List.length_append, List.length_cons]
    omega
  obtain ⟨entries, hread, rfl⟩ := Json.readEntries_of_row hrow _ hfuel behind
  obtain ⟨e, he, rfl⟩ := List.mem_map.1 hx
  have hfind : (entries.find? holdsArray).isSome = true :=
    List.find?_isSome.2 ⟨e, he, holdsArray_iff.2 ⟨hname, harray⟩⟩
  obtain ⟨first, hfirst⟩ := Option.isSome_iff_exists.1 hfind
  obtain ⟨hstart, -, less, hvalue⟩ := Json.mem_readEntries hread first
    (List.mem_of_find?_eq_some hfirst)
  have hlength : 2 * first.start.length ≤ 2 * text.length + 1 := by
    rw [htext]
    simp only [List.length_append, List.length_cons] at hstart ⊢
    omega
  obtain ⟨items, hitems, -⟩ := exists_readArray hvalue
    (holdsArray_iff.1 (List.find?_some hfirst)).2 hlength
  have hskip : Json.skipSpace text = 0x7b :: (row ++ 0x7d :: behind) := by
    rw [htext, Json.skipSpace_append hbefore, Json.skipSpace_cons (by decide)]
  have hempty : Json.skipSpace behind = [] := by
    rw [← List.append_nil behind, Json.skipSpace_append hbehind]
    rfl
  refine ⟨⟨row ++ 0x7d :: behind, entries, items, first.rest⟩, ?_⟩
  rw [ofText?, hskip]
  change (Json.readEntries true _ _ true (row ++ Json.closing true :: behind)).bind _ = _
  rw [hread]
  change (guard (Json.skipSpace behind).isEmpty >>= fun _ => entries.find? holdsArray >>= _) = _
  rw [hempty, hfirst]
  change (readArray _ first.start).bind _ = _
  rw [hitems]
  rfl

theorem hasArray_iff : HasArray text ↔ (ofText? text).isSome = true := by
  rw [Option.isSome_iff_exists]
  refine ⟨exists_of_hasArray, ?_⟩
  rintro ⟨l, h⟩
  obtain ⟨_, blank, behind, front, e, back, -, -, -, hblank, htext, hbehind, hmembers, hsplit, -,
    he, -⟩ := ofText?_cases h
  obtain ⟨row, hinside, hrow⟩ := Json.readEntries_spelled hmembers
  obtain ⟨after, hafter, hafter'⟩ := Json.exists_blank behind
  rw [hbehind, List.append_nil] at hafter'
  have hmem : e ∈ l.members := by
    rw [hsplit]
    exact List.mem_append_right front List.mem_cons_self
  exact ⟨blank, _, row, behind, hblank, hafter' ▸ hafter, hinside ▸ htext, hrow, e.pair,
    List.mem_map_of_mem hmem, holdsArray_iff.1 he⟩

instance (text : Bytes) : Decidable (HasArray text) := decidable_of_iff _ hasArray_iff.symm

/-- What a listing holds is what the reader of documents reads. -/
theorem read_eq (h : ofText? text = some l) :
    Json.Tree.read (Json.maxDepth + 2) text =
        some (.object (l.members.map fun e => (Json.nameText e.name, e.tree))) ∧
      ∃ e, l.members.find? holdsArray = some e ∧ e.tree = .array (l.items.map Json.Entry.tree) := by
  obtain ⟨fuel, blank, behind, front, e, back, gap, array, hfuel, hblank, htext, hbehind, hmembers,
    hsplit, hfront, he, hgap, hstart, hitems⟩ := ofText?_cases h
  constructor
  · obtain ⟨row, hinside, hrow⟩ := Json.readEntries_spelled hmembers
    obtain ⟨after, hafter, hafter'⟩ := Json.exists_blank behind
    have hobject : Json.Spelled (Json.maxDepth + 2) _ _ := .object hrow
    rw [Json.Tree.ofMembers, List.map_map, Json.Tree.within, if_neg (Nat.succ_ne_zero _)] at hobject
    refine Json.read_iff.2 ⟨blank, _, behind, ?_, hblank, hobject, ?_⟩
    · rw [htext, hinside]
      simp [Json.closing]
    · rw [hafter', hbehind, List.append_nil]
      exact hafter
  · have hmem : e ∈ l.members := by
      rw [hsplit]
      exact List.mem_append_right front List.mem_cons_self
    obtain ⟨hle, -, less, hvalue⟩ := Json.mem_readEntries hmembers e hmem
    have hlength : 2 * e.start.length ≤ fuel := by
      rw [htext, List.length_append, List.length_cons] at hfuel
      omega
    obtain ⟨items, hread, htree⟩ := exists_readArray hvalue (holdsArray_iff.1 he).2 hlength
    rw [readArray, hstart, Json.skipSpace_append hgap, Json.skipSpace_cons (by decide)] at hread
    change Json.readEntries false fuel Json.maxDepth true array = _ at hread
    rw [hitems] at hread
    obtain rfl : l.items = items := congrArg Prod.fst (Option.some.inj hread)
    refine ⟨e, List.find?_eq_some_iff_append.2 ⟨he, front, back, hsplit, ?_⟩, htree⟩
    exact fun x hx => by simpa using hfront x hx

/-! ## What the scanner makes of it -/

/-- The scanner comes to the array, at its bracket. -/
theorem walk_to_array (h : ofText? text = some l) :
    ∃ blank front array fuel v v', Json.Blank blank ∧
      text = blank ++ 0x7b :: l.inside ∧ l.inside = front ++ 0x5b :: array ∧
      View.Walk { depth := 1 } front v ∧ v.mayEnd = false ∧ v.step 0x5b = .ok (v', none) ∧
      v'.Between ∧
      Json.readEntries false fuel Json.maxDepth true array = some (l.items, l.after) := by
  obtain ⟨fuel, blank, behind, front, e, back, gap, array, -, hblank, htext, -, hmembers, hsplit,
    hfront, he, hgap, hstart, hitems⟩ := ofText?_cases h
  rw [hsplit] at hmembers
  obtain ⟨before, v, hbefore, hwalk, houter, hkey⟩ :=
    View.walk_members hmembers hfront View.outer_start
  rw [(holdsArray_iff.1 he).1] at hkey
  obtain ⟨v', hstep, hbetween⟩ := houter.step_array hkey
  refine ⟨blank, before ++ gap, array, fuel, v, v', hblank, htext, ?_,
    hwalk.append (houter.walk_spaces hgap), houter.mayEnd_eq, hstep, hbetween, hitems⟩
  rw [hbefore, hstart, List.append_assoc]

/-- **The elements of a whole response are the items of its array.** -/
theorem run_eq (h : ofText? text = some l) (hitems : ∀ e ∈ l.items, e.tree.isObject = true) :
    ∃ v, View.run {} text = .ok (v, l.items.map Json.Entry.text) ∧ v.phase = .done := by
  obtain ⟨blank, front, array, fuel, v, v', hblank, htext, hinside, hfront, hamid, hstep, hbetween,
    hread⟩ := walk_to_array h
  obtain ⟨v'', hrun, hdone⟩ := hbetween.run_items hread hitems
  refine ⟨v'', ?_, hdone⟩
  rw [htext, View.run_start hblank, hinside, View.run_append_of_ok hfront.run_eq, View.run,
    if_neg (View.not_done hamid), hstep]
  change (((v'.run array).bind _).map _ : Except Error (View × List Bytes)) = _
  rw [hrun]
  rfl

/-- The items whose last byte is not among the last bytes of the text, as many as are missing. -/
def within (l : Listing) (missing : Nat) : List Json.Entry :=
  l.items.filter fun e => missing ≤ e.rest.length

/-- **The elements of a response that breaks off** are the items that have come whole. -/
theorem run_cut (h : ofText? text = some l) (hitems : ∀ e ∈ l.items, e.tree.isObject = true)
    {cut more : Bytes} (hcut : cut ++ more = text) (hopened : more.length ≤ l.inside.length)
    (hclosed : l.after.length < more.length) :
    ∃ v, View.run {} cut = .ok (v, (l.within more.length).map Json.Entry.text) ∧
      v.mayEnd = false := by
  obtain ⟨blank, front, array, fuel, v, v', hblank, htext, hinside, hfront, hamid, hstep, hbetween,
    hread⟩ := walk_to_array h
  have hopen : cut ++ more = (blank ++ [0x7b]) ++ l.inside := by
    rw [hcut, htext, List.append_assoc]
    rfl
  obtain ⟨cut, rfl, hinside'⟩ := View.cut_behind hopen hopened
  have hrun : View.run {} (blank ++ [0x7b] ++ cut) = View.run { depth := 1 } cut := by
    rw [List.append_assoc]
    exact View.run_start hblank cut
  have hsplit : cut ++ more = front ++ 0x5b :: array := hinside'.symm.trans hinside
  rw [hrun]
  by_cases hle : more.length ≤ array.length
  · -- The array has been opened.
    have hsplit' : cut ++ more = (front ++ [0x5b]) ++ array := by
      rw [hsplit, List.append_assoc]
      rfl
    obtain ⟨cut, rfl, rfl⟩ := View.cut_behind hsplit' hle
    obtain ⟨v'', hitems, hamid'⟩ := hbetween.run_items_cut hread hitems hclosed
    refine ⟨v'', ?_, hamid'⟩
    rw [List.append_assoc, View.run_append_of_ok hfront.run_eq, List.cons_append, View.run,
      if_neg (View.not_done hamid), hstep]
    change (((v'.run cut).bind _).map _ : Except Error (View × List Bytes)) = _
    rw [hitems]
    rfl
  · -- No item has come.
    obtain ⟨back, rfl⟩ := View.cut_before hsplit (Nat.lt_of_not_le hle)
    obtain ⟨v'', hwalk, hamid'⟩ := hfront.cut_amid hamid
    refine ⟨v'', ?_, hamid'⟩
    have hnone : l.within more.length = [] := by
      refine List.filter_eq_nil_iff.2 fun e he he' => hle ?_
      obtain ⟨hstart, hrest, -⟩ := Json.mem_readEntries hread e he
      have he' : more.length ≤ e.rest.length := of_decide_eq_true he'
      omega
    rw [hwalk.run_eq, hnone]
    rfl

/-! ## The results -/

/-- The results among items. -/
def found (items : List Json.Entry) : List SearchResult :=
  items.filterMap fun e => SearchResult.ofTree? e.tree

/-- A result is an object. -/
theorem isObject_of_ofTree? {t : Json.Tree} (h : (SearchResult.ofTree? t).isSome = true) :
    t.isObject = true := by
  cases t with
  | object => rfl
  | _ => cases h

/-- **An item is decoded as it is read**: its bytes tell what its tree tells. -/
theorem decode_text (h : ofText? text = some l) :
    ∀ e ∈ l.items, SearchResult.decode e.text = SearchResult.ofTree? e.tree := by
  obtain ⟨_, _, _, _, _, _, _, _, -, -, -, -, -, -, -, -, -, -, hread⟩ := ofText?_cases h
  intro e he
  obtain ⟨-, -, less, hvalue⟩ := Json.mem_readEntries hread e he
  obtain ⟨gap, -, -, hspelled⟩ := Json.Entry.text_spelled hvalue
  have hdocument : Json.Tree.read Json.maxDepth e.text = some e.tree :=
    Json.read_iff.2 ⟨[], e.text, [], by simp, Json.blank_nil, hspelled, Json.blank_nil⟩
  rw [SearchResult.decode, hdocument]
  rfl

theorem filterMap_decode (h : ofText? text = some l) {items : List Json.Entry}
    (hitems : ∀ e ∈ items, e ∈ l.items) :
    (items.map Json.Entry.text).filterMap SearchResult.decode = found items := by
  have hmap : items.map (fun e => SearchResult.decode e.text) =
      items.map fun e => SearchResult.ofTree? e.tree :=
    List.map_congr_left fun e he => decode_text h e (hitems e he)
  have hfound := congrArg (List.filterMap id) hmap
  rw [List.filterMap_map, List.filterMap_map] at hfound
  rw [List.filterMap_map]
  exact hfound

theorem all_decodes (h : ofText? text = some l)
    (hresults : ∀ e ∈ l.items, (SearchResult.ofTree? e.tree).isSome = true)
    {items : List Json.Entry} (hitems : ∀ e ∈ items, e ∈ l.items) :
    (items.map Json.Entry.text).all Scanner.decodes = true := by
  rw [List.all_map, List.all_eq_true]
  intro e he
  change (SearchResult.decode e.text).isSome = true
  rw [decode_text h e (hitems e he)]
  exact hresults e (hitems e he)

/-- What a run over all of a body tells of what one gets. -/
theorem yields_iff_of_run {bytes : Bytes} {v : View} {elements : List Bytes}
    (hrun : View.run {} bytes = .ok (v, elements)) (hall : elements.all Scanner.decodes = true)
    {body : Body} {chunks : List Bytes} (hbody : body.Brings chunks)
    (hchunks : chunks.flatten = bytes) (values : List (Except Error SearchResult)) :
    Results.Yields { body } values ↔
      values = Scanner.items (elements.filterMap SearchResult.decode)
        (if v.mayEnd then none else some Scanner.cutShort) := by
  have hintact : Scanner.intact ([] ++ chunks.flatten) = true := by
    rw [List.nil_append, hchunks, Scanner.intact, Scanner.elements_of_ok hrun]
    exact hall
  rw [Results.yields_start_iff hbody, Scanner.leading_of_intact hintact, List.nil_append, hchunks,
    Scanner.results, Scanner.elements_of_ok hrun, Scanner.failure, hrun]
  dsimp only
  rw [if_pos hall]

/-- **The scanner finds what a reader of the whole document finds.**  For a document with the array,
all of whose items are results, one gets these results, however its bytes are cut into chunks.  If
the response breaks off behind the first brace and before the bracket that closes the array, one
gets the results whose last byte has come, and then the failure that tells so. -/
theorem agrees_with_reader {text : Bytes} (harray : HasArray text)
    (hresults : ∀ l, ofText? text = some l →
      ∀ e ∈ l.items, (SearchResult.ofTree? e.tree).isSome = true) :
    ∃ l, ofText? text = some l ∧
      Json.Tree.read (Json.maxDepth + 2) text =
        some (.object (l.members.map fun e => (Json.nameText e.name, e.tree))) ∧
      (∃ e, l.members.find? holdsArray = some e ∧
        e.tree = .array (l.items.map Json.Entry.tree)) ∧
      (∀ (body : Body) (chunks : List Bytes), body.Brings chunks → chunks.flatten = text →
        ∀ values, Results.Yields { body } values ↔ values = (found l.items).map .ok) ∧
      ∀ cut more : Bytes, cut ++ more = text → more.length ≤ l.inside.length →
        l.after.length < more.length →
        ∀ (body : Body) (chunks : List Bytes), body.Brings chunks → chunks.flatten = cut →
          ∀ values, Results.Yields { body } values ↔
            values = (found (l.within more.length)).map .ok ++ [.error Scanner.cutShort] := by
  obtain ⟨l, hl⟩ := exists_of_hasArray harray
  have hresults := hresults l hl
  have hobjects : ∀ e ∈ l.items, e.tree.isObject = true :=
    fun e he => isObject_of_ofTree? (hresults e he)
  obtain ⟨hread, harray⟩ := read_eq hl
  refine ⟨l, hl, hread, harray, ?_, ?_⟩
  · intro body chunks hbody hchunks values
    obtain ⟨v, hrun, hdone⟩ := run_eq hl hobjects
    have hmayEnd : v.mayEnd = true := by rw [View.mayEnd, hdone]
    rw [yields_iff_of_run hrun (all_decodes hl hresults fun _ => id) hbody hchunks, if_pos hmayEnd,
      filterMap_decode hl fun _ => id, Scanner.items]
    simp
  · intro cut more hcut hopened hclosed body chunks hbody hchunks values
    obtain ⟨v, hrun, hamid⟩ := run_cut hl hobjects hcut hopened hclosed
    have hwithin : ∀ e ∈ l.within more.length, e ∈ l.items := fun e he => (List.mem_filter.1 he).1
    rw [yields_iff_of_run hrun (all_decodes hl hresults hwithin) hbody hchunks,
      if_neg (Bool.eq_false_iff.1 hamid), filterMap_decode hl hwithin]
    rfl

/-- A response with the name of the array in an object, a bracket in a string, and two results. -/
def sample : Bytes :=
  Utf8.encode ("\x7b\"x\": \x7b\"objects\":[1]\x7d, \"y\":\"\\\"]\", \"objects\" : " ++
    "[\x7b\"package\":\x7b\"name\":\"a\"\x7d\x7d, \x7b\"package\":\x7b\"name\":\"b\"\x7d\x7d ], " ++
    "\"total\":2\x7d")

/-- Byte by byte it gives its two results; without its last twenty bytes it gives the first. -/
theorem agrees_with_reader_sample :
    HasArray sample ∧
      Results.Yields { body := (sample.map fun b => [b]).map .chunk }
        [.ok { package := { name := "a" } }, .ok { package := { name := "b" } }] ∧
      Results.Yields { body := [sample.take (sample.length - 20)].map .chunk }
        [.ok { package := { name := "a" } }, .error Scanner.cutShort] := by
  have harray : HasArray sample := by decide +kernel
  have hresults : (ofText? sample).all (fun l => l.items.all fun e =>
      (SearchResult.ofTree? e.tree).isSome) = true := by decide +kernel
  have hfound : (ofText? sample).map (fun l => (found l.items, found (l.within 20),
      decide (20 ≤ l.inside.length ∧ l.after.length < 20))) =
      some ([{ package := { name := "a" } }, { package := { name := "b" } }],
        [{ package := { name := "a" } }], true) := by decide +kernel
  obtain ⟨l, hl, -, -, hwhole, hcut⟩ := agrees_with_reader harray fun l hl e he => by
    rw [hl] at hresults
    exact List.all_eq_true.1 hresults e he
  rw [hl] at hfound
  obtain ⟨hitems, hwithin, hbounds⟩ : _ ∧ _ ∧ _ := by
    simpa only [Option.map_some, Option.some.injEq, Prod.mk.injEq] using hfound
  obtain ⟨hopened, hclosed⟩ := of_decide_eq_true hbounds
  refine ⟨harray, ?_, ?_⟩
  · rw [hwhole _ _ (Results.brings_chunks _) (by decide +kernel), hitems]
    rfl
  · have hlength : (sample.drop (sample.length - 20)).length = 20 := by decide +kernel
    rw [hcut _ _ (List.take_append_drop (sample.length - 20) sample) (by rwa [hlength])
      (by rwa [hlength]) _ _ (Results.brings_chunks _) (List.append_nil _), hlength, hwithin]
    rfl

end Listing

end RegistryProxy
