import RegistryProxy.Proofs.Json.Tokens
import RegistryProxy.Proofs.Search.Run

/-!
# Proofs/Search/Walk — a value leaves no trace

A `Walk` is a run that ends no element, and on which the response may not end.  A value that is
spelled as the grammar has it is walked over, whatever it holds: its strings and brackets close, and
what is left of it are its bytes in the element at hand (`walk_value`).  Among the members of the
outermost object it can leave one thing more, the last string, which no member reads.
-/

namespace RegistryProxy

namespace Scanner

namespace View

open Json (Blank Quoted Spelled Row Label Digits)

variable {v v' v₁ : View} {b : UInt8} {bytes front back : Bytes}

/-! ## Walks -/

/-- **A run that ends no element**, and on which the response may not end. -/
inductive Walk : View → Bytes → View → Prop
  | nil (v : View) : Walk v [] v
  | cons {v v₁ v' : View} {b : UInt8} {bytes : Bytes} (amid : v.mayEnd = false)
    (step : v.step b = .ok (v₁, none)) (rest : Walk v₁ bytes v') : Walk v (b :: bytes) v'

theorem Walk.one (amid : v.mayEnd = false) (step : v.step b = .ok (v', none)) : Walk v [b] v' :=
  .cons amid step (.nil v')

/-- Walks are put together. -/
theorem Walk.append (h : Walk v front v₁) (hback : Walk v₁ back v') :
    Walk v (front ++ back) v' := by
  induction h with
  | nil => exact hback
  | cons amid step _ ih => exact .cons amid step (ih hback)

/-- A walk can stop anywhere. -/
theorem Walk.cut (h : Walk v (front ++ back) v') : ∃ v₁, Walk v front v₁ ∧ Walk v₁ back v' := by
  induction front generalizing v with
  | nil => exact ⟨v, .nil v, h⟩
  | cons b front ih =>
    cases h with
    | cons amid step rest =>
      obtain ⟨v₁, hfront, hback⟩ := ih rest
      exact ⟨v₁, .cons amid step hfront, hback⟩

theorem not_done (h : v.mayEnd = false) : v.phase ≠ .done := by
  intro hdone
  rw [mayEnd, hdone] at h
  cases h

/-- A walk is a run that finds nothing. -/
theorem Walk.run_eq (h : Walk v bytes v') : v.run bytes = .ok (v', []) := by
  induction h with
  | nil => rfl
  | cons amid step _ ih =>
    rw [run, if_neg (not_done amid), step]
    change (run _ _).bind _ = _
    rw [ih]
    rfl

/-- A byte behind a walk that ends an element. -/
theorem Walk.run_ended (h : Walk v front v') (amid : v'.mayEnd = false) {element : Bytes}
    (hstep : v'.step b = .ok (v₁, some element)) (bytes : Bytes) :
    v.run (front ++ b :: bytes) = (v₁.run bytes).map fun x => (x.1, element :: x.2) := by
  rw [run_append_of_ok h.run_eq, run, if_neg (not_done amid), hstep]
  change ((v₁.run bytes).bind _).map _ = _
  cases v₁.run bytes <;> rfl

/-- A run that stops on a walk is still amid the response. -/
theorem Walk.cut_amid (h : Walk v (front ++ back) v') (amid : v'.mayEnd = false) :
    ∃ v₁, Walk v front v₁ ∧ v₁.mayEnd = false := by
  obtain ⟨v₁, hfront, hback⟩ := h.cut
  refine ⟨v₁, hfront, ?_⟩
  cases hback with
  | nil => exact amid
  | cons amid _ _ => exact amid

/-! ## Bytes that go into the element and the name at hand -/

/-- The view with more bytes in the element and in the name at hand. -/
def grow (v : View) (bytes : Bytes) : View :=
  { v with element := v.element.map (· ++ bytes), name := v.name.map (· ++ bytes) }

theorem map_append_append (x : Option Bytes) (front back : Bytes) :
    (x.map (· ++ front)).map (· ++ back) = x.map (· ++ (front ++ back)) := by
  cases x with
  | none => rfl
  | some bytes => exact congrArg some (List.append_assoc ..)

theorem grow_grow (v : View) (front back : Bytes) :
    (v.grow front).grow back = v.grow (front ++ back) := by
  simp only [grow, map_append_append]

@[simp] theorem grow_nil (v : View) : v.grow [] = v := by
  cases v with
  | mk depth inString escaped lastString key phase element name =>
    cases element <;> cases name <;> simp [grow]

/-- Bytes that are taken one by one into what is at hand. -/
theorem walk_bytes (amid : v.mayEnd = false)
    (h : ∀ b ∈ bytes, ∀ seen, (v.grow seen).step b = .ok ((v.grow seen).grow [b], none)) :
    Walk v bytes (v.grow bytes) := by
  induction bytes generalizing v with
  | nil => exact v.grow_nil.symm ▸ .nil v
  | cons b bytes ih =>
    have hstep := h b List.mem_cons_self []
    rw [grow_nil] at hstep
    have hrest : Walk (v.grow [b]) bytes ((v.grow [b]).grow bytes) := by
      refine ih amid fun x hx seen => ?_
      rw [grow_grow]
      exact h x (List.mem_cons_of_mem b hx) _
    rw [grow_grow] at hrest
    exact .cons amid hstep hrest

/-! ## Strings -/

theorem step_inString (h : v.inString = true) (b : UInt8) :
    v.step b = .ok (v.stringByte b, none) := by
  rw [step, if_pos h]

theorem step_stringByte (hstring : v.inString = true) (hescaped : v.escaped = false)
    (hslash : b ≠ 0x5c) (hquote : b ≠ 0x22) : v.step b = .ok (v.grow [b], none) := by
  rw [step_inString hstring, stringByte, if_neg (Bool.eq_false_iff.1 hescaped), if_neg hslash,
    if_neg hquote]
  rfl

theorem step_closingQuote (hstring : v.inString = true) (hescaped : v.escaped = false) :
    v.step 0x22 = .ok ({ v with
      inString := false
      element := v.grown 0x22
      name := none
      lastString := v.name.elim v.lastString remembered }, none) := by
  rw [step_inString hstring, stringByte, if_neg (Bool.eq_false_iff.1 hescaped),
    if_neg (by decide), if_pos rfl]

/-- A backslash and the byte that it takes with it. -/
theorem walk_escape (amid : v.mayEnd = false) (hstring : v.inString = true)
    (hescaped : v.escaped = false) (b : UInt8) : Walk v [0x5c, b] (v.grow [0x5c, b]) := by
  obtain ⟨depth, inString, escaped, lastString, key, phase, element, name⟩ := v
  cases hstring
  cases hescaped
  refine .cons amid rfl (.one amid ?_)
  simp [step, stringByte, grown, grow, Function.comp_def]

theorem hexValue_plain {b : UInt8} {value : Nat} (h : Json.hexValue b = some value) :
    b ≠ 0x5c ∧ b ≠ 0x22 := by
  constructor
  · rintro rfl
    cases h
  · rintro rfl
    cases h

/-- The digits of a code are neither backslashes nor quotes. -/
theorem hexCode_plain {a b c d : UInt8} {code : Nat} (h : Json.hexCode a b c d = some code) :
    ∀ x ∈ [a, b, c, d], x ≠ 0x5c ∧ x ≠ 0x22 := by
  obtain ⟨_, ha, h⟩ := Option.bind_eq_some_iff.1 h
  obtain ⟨_, hb, h⟩ := Option.bind_eq_some_iff.1 h
  obtain ⟨_, hc, h⟩ := Option.bind_eq_some_iff.1 h
  obtain ⟨_, hd, -⟩ := Option.bind_eq_some_iff.1 h
  simp only [List.forall_mem_cons]
  exact ⟨hexValue_plain ha, hexValue_plain hb, hexValue_plain hc, hexValue_plain hd, nofun⟩

/-- **The inside of a text is walked over**: no quote in it ends it. -/
theorem walk_quoted {pieces : List Json.Piece} (h : Quoted pieces bytes) (amid : v.mayEnd = false)
    (hstring : v.inString = true) (hescaped : v.escaped = false) :
    Walk v bytes (v.grow bytes) := by
  induction h generalizing v with
  | nil => exact v.grow_nil.symm ▸ .nil v
  | @byte b _ bytes _ quote slash _ ih =>
    have hrest := ih (v := v.grow [b]) amid hstring hescaped
    rw [grow_grow] at hrest
    exact .cons amid (step_stringByte hstring hescaped slash quote) hrest
  | @escape b _ _ bytes _ _ ih =>
    have hrest := ih (v := v.grow [0x5c, b]) amid hstring hescaped
    rw [grow_grow] at hrest
    exact (walk_escape amid hstring hescaped _).append hrest
  | @unit a b c d _ _ bytes hex _ ih =>
    have hdigits : Walk (v.grow [0x5c, 0x75]) [a, b, c, d]
        ((v.grow [0x5c, 0x75]).grow [a, b, c, d]) := by
      refine walk_bytes amid fun x hx seen => ?_
      exact step_stringByte hstring hescaped (hexCode_plain hex x hx).1 (hexCode_plain hex x hx).2
    have hrest := ih (v := (v.grow [0x5c, 0x75]).grow [a, b, c, d]) amid hstring hescaped
    rw [grow_grow, grow_grow] at hrest
    rw [grow_grow] at hdigits
    exact ((walk_escape amid hstring hescaped 0x75).append hdigits).append hrest

/-! ## Between two tokens -/

/-- **Between two tokens of a value**, none of which ends the element at hand. -/
structure Inner (v : View) : Prop where
  /-- No string is open, -/
  inString_eq : v.inString = false
  /-- so nothing is escaped, -/
  escaped_eq : v.escaped = false
  /-- and no name is at hand. -/
  name_eq : v.name = none
  /-- The brackets around it stay open. -/
  low : (v.phase = .seeking ∧ 1 ≤ v.depth) ∨ (v.phase = .elements ∧ 3 ≤ v.depth)

/-- The view when a value lies behind it: its bytes are in the element at hand, and its last string
may be remembered. -/
def past (v : View) (bytes : Bytes) (last : Option Bytes) : View :=
  { v with element := v.element.map (· ++ bytes), lastString := last }

/-- A byte that is neither a quote nor a bracket nor a sign between tokens. -/
def Plain (b : UInt8) : Prop :=
  b ≠ 0x22 ∧ ¬ (b = 0x7b ∨ b = 0x5b) ∧ ¬ (b = 0x7d ∨ b = 0x5d) ∧ b ≠ 0x3a ∧ b ≠ 0x2c

instance (b : UInt8) : Decidable (Plain b) :=
  inferInstanceAs (Decidable (_ ∧ _))

/-- Such a byte goes into the element at hand, or begins one if it is no space. -/
theorem step_plain (hstring : v.inString = false) (hb : Plain b) :
    v.step b =
      .ok ({ v with element := if Json.isSpace b then v.grown b else v.begun b }, none) := by
  obtain ⟨hquote, hopen, hclose, hcolon, hcomma⟩ := hb
  rw [step, if_neg (Bool.eq_false_iff.1 hstring), if_neg hquote, if_neg hopen, if_neg hclose,
    if_neg hcolon, if_neg hcomma]
  split <;> rfl

theorem plain_of_isSpace (h : Json.isSpace b = true) : Plain b := by
  rcases Json.isSpace_cases h with rfl | rfl | rfl | rfl <;> decide

/-- Spaces go into the element at hand, if there is one. -/
theorem walk_blank (h : Blank bytes) (amid : v.mayEnd = false) (hstring : v.inString = false)
    (hname : v.name = none) : Walk v bytes (v.grow bytes) := by
  refine walk_bytes amid fun b hb seen => ?_
  rw [step_plain (v := v.grow seen) hstring (plain_of_isSpace (h b hb)), if_pos (h b hb)]
  simp only [grow, grown, hname, Option.map_none]

/-- Without an element at hand, nothing is left of bytes. -/
theorem grow_of_none (helement : v.element = none) (hname : v.name = none) (bytes : Bytes) :
    v.grow bytes = v := by
  cases v
  cases helement
  cases hname
  rfl

namespace Inner

theorem grow_eq (h : v.Inner) (bytes : Bytes) : v.grow bytes = v.past bytes v.lastString := by
  rw [View.grow, past, h.name_eq, Option.map_none]

theorem grow (h : v.Inner) (bytes : Bytes) : (v.grow bytes).Inner := by
  rw [h.grow_eq]
  exact ⟨h.inString_eq, h.escaped_eq, h.name_eq, h.low⟩

/-- An element is not between others while a bracket of it is open. -/
theorem atElements_eq (h : v.Inner) : v.atElements = false := by
  refine Bool.eq_false_iff.2 fun hat => ?_
  obtain ⟨hphase, hdepth⟩ := atElements_iff.1 hat
  have hlow := h.low
  rw [hphase, hdepth, elementDepth] at hlow
  obtain ⟨hseeking, -⟩ | ⟨-, hlow⟩ := hlow
  · cases hseeking
  · omega

/-- The response does not end there. -/
theorem mayEnd_eq (h : v.Inner) : v.mayEnd = false := by
  rw [mayEnd]
  obtain ⟨hphase, hlow⟩ | ⟨hphase, -⟩ := h.low
  · rw [hphase]
    simpa using fun hdepth : v.depth = 0 => absurd hlow (by omega)
  · rw [hphase]

theorem begun_eq (h : v.Inner) (b : UInt8) : v.begun b = v.grown b := by
  rw [begun, h.atElements_eq, Bool.false_and]
  rfl

/-! ### Words, spaces and signs -/

/-- Plain bytes are walked over. -/
theorem walk_plain (h : v.Inner) (hbytes : ∀ b ∈ bytes, Plain b) : Walk v bytes (v.grow bytes) := by
  refine walk_bytes h.mayEnd_eq fun b hb seen => ?_
  rw [step_plain (h.grow seen).inString_eq (hbytes b hb), (h.grow seen).begun_eq, ite_self,
    (h.grow seen).grow_eq]
  rfl

theorem walk_blank (h : v.Inner) (hblank : Blank bytes) : Walk v bytes (v.grow bytes) :=
  View.walk_blank hblank h.mayEnd_eq h.inString_eq h.name_eq

theorem walk_colon (h : v.Inner) (hmembers : v.atMembers = false) :
    Walk v [0x3a] (v.grow [0x3a]) := by
  refine .one h.mayEnd_eq ?_
  rw [step, if_neg (Bool.eq_false_iff.1 h.inString_eq)]
  change Except.ok (v.colon 0x3a, none) = _
  rw [colon, if_neg (Bool.eq_false_iff.1 hmembers), h.grow_eq]
  rfl

theorem walk_comma (h : v.Inner) (hmembers : v.atMembers = false) :
    Walk v [0x2c] (v.grow [0x2c]) := by
  refine .one h.mayEnd_eq ?_
  rw [step, if_neg (Bool.eq_false_iff.1 h.inString_eq)]
  change Except.ok (v.comma 0x2c) = _
  rw [comma, if_neg (Bool.eq_false_iff.1 h.atElements_eq), if_neg (Bool.eq_false_iff.1 hmembers),
    h.grow_eq]
  rfl

/-! ### Strings and brackets -/

/-- **A string is walked over**, and remembered where names stand. -/
theorem walk_string (h : v.Inner) {pieces : List Json.Piece} (hquoted : Quoted pieces bytes) :
    Walk v (0x22 :: (bytes ++ [0x22])) (v.past (0x22 :: (bytes ++ [0x22]))
      (if v.atMembers then remembered bytes else v.lastString)) := by
  let opened : View :=
    { v with
      inString := true
      element := v.grown 0x22
      name := if v.atMembers then some [] else none }
  have hamid : opened.mayEnd = false := by
    have hphase := not_done h.mayEnd_eq
    rw [mayEnd]
    cases hp : v.phase with
    | seeking => exact Bool.and_false _
    | elements => rfl
    | done => exact absurd hp hphase
  have hopen : v.step 0x22 = .ok (opened, none) := by
    rw [step, if_neg (Bool.eq_false_iff.1 h.inString_eq), if_pos rfl, h.begun_eq]
  have hwalk : Walk opened bytes (opened.grow bytes) := walk_quoted hquoted hamid rfl h.escaped_eq
  refine .cons h.mayEnd_eq hopen (hwalk.append (.one hamid ?_))
  rw [step_closingQuote (v := opened.grow bytes) rfl h.escaped_eq]
  have helement : (opened.grow bytes).grown 0x22 =
      v.element.map (· ++ (0x22 :: (bytes ++ [0x22]))) := by
    change (((v.element.map _).map _).map _) = _
    rw [map_append_append, map_append_append]
    rfl
  have hlast : (opened.grow bytes).name.elim v.lastString remembered =
      if v.atMembers then remembered bytes else v.lastString := by
    change ((if v.atMembers then some [] else none : Option Bytes).map (· ++ bytes)).elim _ _ = _
    split <;> rfl
  rw [helement, past, h.inString_eq, h.name_eq]
  exact congrArg (fun last => Except.ok (View.mk v.depth false v.escaped last v.key v.phase _ none,
    none)) hlast

/-- What lies between brackets is no member of the outermost object. -/
theorem deeper (h : v.Inner) (element : Option Bytes) :
    Inner { v with depth := v.depth + 1, element } ∧
      atMembers { v with depth := v.depth + 1, element } = false := by
  refine ⟨⟨h.inString_eq, h.escaped_eq, h.name_eq, ?_⟩, ?_⟩
  · exact h.low.imp (fun hlow => ⟨hlow.1, Nat.le_succ_of_le hlow.2⟩)
      fun hlow => ⟨hlow.1, Nat.le_succ_of_le hlow.2⟩
  · have hdepth : v.depth ≠ 0 := by
      have hlow := h.low
      omega
    rw [atMembers]
    simpa using fun _ => hdepth

/-- A closing bracket may be the one of the element at hand. -/
theorem step_closing_eq (h : v.Inner) (hb : b = 0x7d ∨ b = 0x5d) :
    v.step b = .ok (if atElements { v with depth := v.depth - 1 } then
        ({ v with depth := v.depth - 1, element := none }, v.grown b)
      else ({ v with depth := v.depth - 1, element := v.grown b }, none)) := by
  have hquote : b ≠ 0x22 := by rcases hb with rfl | rfl <;> decide
  have hopen : ¬ (b = 0x7b ∨ b = 0x5b) := by rcases hb with rfl | rfl <;> decide
  have hdepth : v.depth ≠ 0 := by
    have hlow := h.low
    omega
  rw [step, if_neg (Bool.eq_false_iff.1 h.inString_eq), if_neg hquote, if_neg hopen, if_pos hb,
    closeBracket, if_neg hdepth, if_neg (Bool.eq_false_iff.1 h.atElements_eq)]
  split <;> rfl

/-- A bracket that does not end the element at hand goes into it. -/
theorem step_closing (h : v.Inner) (hb : b = 0x7d ∨ b = 0x5d)
    (hat : ¬ atElements { v with depth := v.depth - 1 } = true) :
    v.step b = .ok ({ v with depth := v.depth - 1, element := v.grown b }, none) := by
  rw [h.step_closing_eq hb, if_neg hat]

theorem step_closing_element (h : v.Inner) (hb : b = 0x7d ∨ b = 0x5d)
    (hat : atElements { v with depth := v.depth - 1 } = true) :
    v.step b = .ok ({ v with depth := v.depth - 1, element := none }, v.grown b) := by
  rw [h.step_closing_eq hb, if_pos hat]

/-- **Brackets are walked over** with what is between them, but for those of the array. -/
theorem walk_brackets (h : v.Inner) {opening closing : UInt8}
    (hopening : opening = 0x7b ∨ opening = 0x5b) (hclosing : closing = 0x7d ∨ closing = 0x5d)
    (harray : v.atMembers = true → v.key = some arrayName → opening ≠ 0x5b)
    (hbetween : ∀ {v : View}, v.Inner → v.atMembers = false → Walk v bytes (v.grow bytes)) :
    Walk v (opening :: (bytes ++ [closing]))
      (v.past (opening :: (bytes ++ [closing])) v.lastString) := by
  obtain ⟨hinner, hmembers⟩ := h.deeper (v.grown opening)
  have hopen : v.step opening =
      .ok ({ v with depth := v.depth + 1, element := v.grown opening }, none) := by
    have hquote : opening ≠ 0x22 := by rcases hopening with rfl | rfl <;> decide
    have hphase : ¬ (v.phase = .seeking ∧ opening = 0x5b ∧ v.depth + 1 = elementDepth ∧
        v.key = some arrayName) := by
      rintro ⟨hseeking, hbracket, hdepth, hkey⟩
      refine harray ?_ hkey hbracket
      rw [atMembers, hseeking, Nat.succ.inj hdepth]
      rfl
    rw [step, if_neg (Bool.eq_false_iff.1 h.inString_eq), if_neg hquote, if_pos hopening,
      openBracket, if_neg hphase, h.begun_eq]
  have hclose := (hinner.grow bytes).step_closing hclosing (Bool.eq_false_iff.1 h.atElements_eq)
  refine .cons h.mayEnd_eq hopen ((hbetween hinner hmembers).append (.one hinner.mayEnd_eq ?_))
  rw [hclose, past]
  have helement : (View.grow { v with depth := v.depth + 1, element := v.grown opening }
      bytes).grown closing = v.element.map (· ++ (opening :: (bytes ++ [closing]))) := by
    change (((v.element.map _).map _).map _) = _
    rw [map_append_append, map_append_append]
    rfl
  rw [helement, View.grow, h.name_eq]
  rfl

end Inner

/-! ## Values -/

/-- Walks that leave their bytes, one after the other. -/
theorem Walk.grow_append (hfront : Walk v front (v.grow front))
    (hback : Walk (v.grow front) back ((v.grow front).grow back)) :
    Walk v (front ++ back) (v.grow (front ++ back)) := by
  rw [← grow_grow]
  exact hfront.append hback

/-- Away from the members of the outermost object, a string is not remembered. -/
theorem Inner.walk_text (h : v.Inner) (hmembers : v.atMembers = false)
    {pieces : List Json.Piece} (hquoted : Quoted pieces bytes) :
    Walk v (0x22 :: (bytes ++ [0x22])) (v.grow (0x22 :: (bytes ++ [0x22]))) := by
  have hwalk := h.walk_string hquoted
  rwa [if_neg (Bool.eq_false_iff.1 hmembers), ← h.grow_eq] at hwalk

/-- The name of a member is walked over, with its colon. -/
theorem Inner.walk_label {named : Bool} {name : Bytes} (h : v.Inner)
    (hmembers : v.atMembers = false) (hlabel : Label named name bytes) :
    Walk v bytes (v.grow bytes) := by
  cases hlabel with
  | item => exact v.grow_nil.symm ▸ .nil v
  | @member name before after pieces hbefore hquoted hafter =>
    have hsplit : before ++ 0x22 :: (name ++ 0x22 :: (after ++ [0x3a])) =
        before ++ (0x22 :: (name ++ [0x22]) ++ (after ++ [0x3a])) := by simp
    rw [hsplit]
    refine (h.walk_blank hbefore).grow_append ?_
    refine ((h.grow _).walk_text hmembers hquoted).grow_append ?_
    exact (((h.grow _).grow _).walk_blank hafter).grow_append
      ((((h.grow _).grow _).grow _).walk_colon hmembers)

theorem plain_of_isDigit (h : Json.isDigit b = true) : Plain b := by
  refine ⟨?_, ?_, ?_, ?_, ?_⟩
  · rintro rfl
    cases h
  · rintro (rfl | rfl) <;> cases h
  · rintro (rfl | rfl) <;> cases h
  · rintro rfl
    cases h
  · rintro rfl
    cases h

theorem plain_digits (h : Digits bytes) : ∀ b ∈ bytes, Plain b :=
  fun b hb => plain_of_isDigit (h.2 b hb)

theorem plain_of_all (h : bytes.all (fun b => Plain b) = true) : ∀ b ∈ bytes, Plain b :=
  fun b hb => of_decide_eq_true (List.all_eq_true.1 h b hb)

/-- No byte of a number is a sign between tokens. -/
theorem plain_numeral {n : Json.Numeral} (h : Json.NumeralSpelled n bytes) :
    ∀ b ∈ bytes, Plain b := by
  obtain @⟨negative, whole, fraction, power, places, exponent, hwhole, -, hfraction, hpower⟩ := h
  simp only [List.forall_mem_append]
  refine ⟨?_, plain_digits hwhole, ?_, ?_⟩
  · cases negative <;> exact plain_of_all rfl
  · cases hfraction with
    | none => exact nofun
    | some hdigits => exact List.forall_mem_cons.2 ⟨by decide, plain_digits hdigits⟩
  · cases hpower with
    | none => exact nofun
    | some hletter hsign hdigits =>
      refine List.forall_mem_cons.2 ⟨?_, List.forall_mem_append.2 ⟨?_, plain_digits hdigits⟩⟩
      · rcases hletter with rfl | rfl <;> decide
      · cases hsign <;> exact plain_of_all rfl

mutual

/-- **A value is walked over**, unless it is the array. -/
theorem walk_value {depth : Nat} {t : Json.Tree} {bytes : Bytes} :
    Spelled depth t bytes → ∀ {v : View}, v.Inner →
      (v.atMembers = true → v.key = some arrayName → bytes.head? ≠ some 0x5b) →
      ∃ last, Walk v bytes (v.past bytes last) ∧ (v.atMembers = false → last = v.lastString)
  | .null, v, h, _ => ⟨_, h.grow_eq _ ▸ h.walk_plain (plain_of_all rfl), fun _ => rfl⟩
  | .yes, v, h, _ => ⟨_, h.grow_eq _ ▸ h.walk_plain (plain_of_all rfl), fun _ => rfl⟩
  | .no, v, h, _ => ⟨_, h.grow_eq _ ▸ h.walk_plain (plain_of_all rfl), fun _ => rfl⟩
  | .number numeral, v, h, _ =>
    ⟨_, h.grow_eq _ ▸ h.walk_plain (plain_numeral numeral), fun _ => rfl⟩
  | .text quoted, v, h, _ =>
    ⟨_, h.walk_string quoted, fun hmembers => if_neg (Bool.eq_false_iff.1 hmembers)⟩
  | .array row, v, h, harray => by
    have hopening : v.atMembers = true → v.key = some arrayName → (0x5b : UInt8) ≠ 0x5b :=
      fun hmembers hkey _ => harray hmembers hkey rfl
    exact ⟨_, h.walk_brackets (.inr rfl) (.inr rfl) hopening (walk_row row), fun _ => rfl⟩
  | .object row, v, h, _ => by
    have hopening : v.atMembers = true → v.key = some arrayName → (0x7b : UInt8) ≠ 0x5b :=
      fun _ _ => by decide
    exact ⟨_, h.walk_brackets (.inl rfl) (.inl rfl) hopening (walk_row row), fun _ => rfl⟩

/-- **What is between brackets is walked over.** -/
theorem walk_row {named first : Bool} {depth : Nat} {entries : List (Bytes × Json.Tree)}
    {bytes : Bytes} : Row named depth first entries bytes → ∀ {v : View}, v.Inner →
      v.atMembers = false → Walk v bytes (v.grow bytes)
  | .nil blank, v, h, _ => h.walk_blank blank
  | @Row.cons _ _ _ _ before label gap value _ _ _ hbefore hlabel hgap hvalue hrest, v, h,
      hmembers => by
    refine (h.walk_blank hbefore).grow_append ?_
    have h := h.grow before
    refine Walk.grow_append ?_ ?_
    · cases first with
      | true => exact (grow_nil _).symm ▸ .nil _
      | false => exact h.walk_comma hmembers
    have h := h.grow (Json.separator first)
    refine (h.walk_label hmembers hlabel).grow_append ?_
    have h := h.grow label
    refine (h.walk_blank hgap).grow_append ?_
    have h := h.grow gap
    obtain ⟨last, hwalk, hlast⟩ := walk_value hvalue h fun hnot _ => by
      cases hmembers.symm.trans hnot
    rw [hlast hmembers, ← h.grow_eq] at hwalk
    exact hwalk.grow_append (walk_row hrest (h.grow value) hmembers)

end

end View

end Scanner

end RegistryProxy
