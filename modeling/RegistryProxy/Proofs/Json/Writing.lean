import RegistryProxy.Proofs.Json.Numbers
import RegistryProxy.Proofs.Json.Reading

/-!
# Proofs/Json/Writing — what is written is read back

The text of a value is a way to write the tree of what is read for it, cut off below the depth that
a reader allows (`spelled_write`).  What is read differs from the value in the doubles alone, which
are rounded again (`reread`); a value whose numbers are integers of 64 bits (`Integral`) is read as
it was (`read_write`).
-/

namespace RegistryProxy.Json

/-! ## Values that are read back -/

/-- A number that a document may have: an integer of 64 bits or any double. -/
def Number.Legible : Number → Prop
  | .int n => Number.Fits (.int n)
  | .real _ => True

/-- **What the text of a number is read as**: a double may be another one, and one that is not
finite is `null`. -/
def Number.reread : Number → Json
  | .int n => .number (.int n)
  | .real x => (parse (writeNumber (.real x))).getD .null

mutual

/-- Whether every number in a value has a property. -/
def Numbers (P : Number → Prop) : Json → Prop
  | .number n => P n
  | .array items => NumbersItems P items
  | .object members => NumbersMembers P members
  | _ => True

/-- `Numbers` for every item. -/
def NumbersItems (P : Number → Prop) : List Json → Prop
  | [] => True
  | a :: as => Numbers P a ∧ NumbersItems P as

/-- `Numbers` for every member. -/
def NumbersMembers (P : Number → Prop) : List (String × Json) → Prop
  | [] => True
  | (_, a) :: as => Numbers P a ∧ NumbersMembers P as

end

/-- Whether every number in a value is an integer of 64 bits. -/
abbrev Integral (j : Json) : Prop := j.Numbers Number.Fits

/-- Whether every number in a value is one that a document may have. -/
abbrev Legible (j : Json) : Prop := j.Numbers Number.Legible

mutual

/-- **What the text of a value is read as.** -/
def reread : Json → Json
  | .number n => n.reread
  | .array items => .array (rereadItems items)
  | .object members => .object (rereadMembers members)
  | j => j

/-- What items are read as. -/
def rereadItems : List Json → List Json
  | [] => []
  | a :: as => reread a :: rereadItems as

/-- What members are read as. -/
def rereadMembers : List (String × Json) → List (String × Json)
  | [] => []
  | (k, a) :: as => (k, reread a) :: rereadMembers as

end

mutual

/-- **How deep the containers of a value are nested.** -/
def nesting : Json → Nat
  | .array items => nestingItems items + 1
  | .object members => nestingMembers members + 1
  | _ => 0

/-- The deepest nesting of an item. -/
def nestingItems : List Json → Nat
  | [] => 0
  | a :: as => max (nesting a) (nestingItems as)

/-- The deepest nesting of a member. -/
def nestingMembers : List (String × Json) → Nat
  | [] => 0
  | (_, a) :: as => max (nesting a) (nestingMembers as)

end

mutual

/-- **What is left of a value** when containers nested deeper than `depth` have no value. -/
def treeWithin (depth : Nat) : Json → Tree
  | .null => .null
  | .bool b => .bool b
  | .number n => .number n
  | .string s => .string s
  | .array items => .within depth (.array (itemsWithin (depth - 1) items))
  | .object members => .within depth (.object (membersWithin (depth - 1) members))

/-- What is left of items. -/
def itemsWithin (depth : Nat) : List Json → List Tree
  | [] => []
  | a :: as => treeWithin depth a :: itemsWithin depth as

/-- What is left of members. -/
def membersWithin (depth : Nat) : List (String × Json) → List (Option String × Tree)
  | [] => []
  | (k, a) :: as => (some k, treeWithin depth a) :: membersWithin depth as

end

/-! ## Texts -/

/-- **Pieces and bytes that stand for a character**, wherever they stand in a text. -/
structure Spells (c : Char) (head : List Piece) (written : Bytes) : Prop where
  /-- The bytes are a way to write the pieces. -/
  quoted : ∀ {pieces bytes}, Quoted pieces bytes → Quoted (head ++ pieces) (written ++ bytes)
  /-- The pieces stand for the character. -/
  pieceBytes : ∀ pieces, pieceBytes (head ++ pieces) =
    (pieceBytes pieces).map (String.utf8EncodeChar c ++ ·)

variable {c : Char}

theorem spells_escape {b value : UInt8} (hshort : shortEscape b = some value)
    (hc : String.utf8EncodeChar c = [value]) : Spells c [.byte value] [0x5c, b] where
  quoted h := .escape hshort h
  pieceBytes _ := hc ▸ rfl

theorem hexCode_hexDigit : ∀ n < 0x20,
    hexCode 0x30 0x30 (hexDigit (n / 16)) (hexDigit (n % 16)) = some n := by decide

theorem spells_unit (h : c.toNat < 0x20) :
    Spells c [.unit c.toNat]
      [0x5c, 0x75, 0x30, 0x30, hexDigit (c.toNat / 16), hexDigit (c.toNat % 16)] where
  quoted hquoted := .unit (hexCode_hexDigit _ h) hquoted
  pieceBytes pieces := by
    have hhigh : isHighHalf c.toNat = false := by
      simp only [isHighHalf, Bool.and_eq_false_iff, decide_eq_false_iff_not]
      omega
    have hlow : isLowHalf c.toNat = false := by
      simp only [isLowHalf, Bool.and_eq_false_iff, decide_eq_false_iff_not]
      omega
    rw [List.singleton_append, Json.pieceBytes.eq_def]
    dsimp only
    rw [if_neg (by simp [hhigh]), if_neg (by simp [hlow]), Char.ofNat_toNat]

/-- A character without an escape has no byte that needs one. -/
theorem plain_utf8EncodeChar (h : 0x20 ≤ c.toNat) (hquote : c ≠ '"') (hslash : c ≠ '\\') :
    ∀ b ∈ String.utf8EncodeChar c, 0x20 ≤ b ∧ b ≠ 0x22 ∧ b ≠ 0x5c := by
  have hquote' : c.toNat ≠ 0x22 := fun hc => hquote (Char.toNat_inj.1 hc)
  have hslash' : c.toNat ≠ 0x5c := fun hc => hslash (Char.toNat_inj.1 hc)
  intro b hb
  have hbyte := Utf8.mem_utf8EncodeChar hb
  simp only [UInt8.le_iff_toNat_le, ne_eq, ← UInt8.toNat_inj, UInt8.reduceToNat]
  omega

theorem quoted_bytes {bytes : Bytes} (h : ∀ b ∈ bytes, 0x20 ≤ b ∧ b ≠ 0x22 ∧ b ≠ 0x5c)
    {pieces : List Piece} {more : Bytes} (hmore : Quoted pieces more) :
    Quoted (bytes.map .byte ++ pieces) (bytes ++ more) := by
  induction bytes with
  | nil => exact hmore
  | cons b bytes ih =>
    obtain ⟨⟨hprinted, hquote, hslash⟩, hbytes⟩ := List.forall_mem_cons.1 h
    exact .byte hprinted hquote hslash (ih hbytes)

theorem pieceBytes_bytes (bytes : Bytes) (pieces : List Piece) :
    pieceBytes (bytes.map .byte ++ pieces) = (pieceBytes pieces).map (bytes ++ ·) := by
  induction bytes with
  | nil => exact (Option.map_id_fun' ▸ rfl : pieceBytes pieces = (pieceBytes pieces).map fun x => x)
  | cons b bytes ih =>
    rw [List.map_cons, List.cons_append, pieceBytes, ih, Option.map_map]
    rfl

theorem spells_plain (h : 0x20 ≤ c.toNat) (hquote : c ≠ '"') (hslash : c ≠ '\\') :
    Spells c ((String.utf8EncodeChar c).map .byte) (String.utf8EncodeChar c) where
  quoted := quoted_bytes (plain_utf8EncodeChar h hquote hslash)
  pieceBytes := pieceBytes_bytes _

/-- What is written for a character stands for it. -/
theorem exists_spells (c : Char) : ∃ head, Spells c head (writeChar c) := by
  rw [writeChar]
  split
  · next hc => exact hc ▸ ⟨_, spells_escape rfl rfl⟩
  split
  · next hc => exact hc ▸ ⟨_, spells_escape rfl rfl⟩
  split
  · next hc =>
    obtain rfl : c = '\x08' := Char.toNat_inj.1 hc
    exact ⟨_, spells_escape rfl rfl⟩
  split
  · next hc =>
    obtain rfl : c = '\x0c' := Char.toNat_inj.1 hc
    exact ⟨_, spells_escape rfl rfl⟩
  split
  · next hc => exact hc ▸ ⟨_, spells_escape rfl rfl⟩
  split
  · next hc => exact hc ▸ ⟨_, spells_escape rfl rfl⟩
  split
  · next hc => exact hc ▸ ⟨_, spells_escape rfl rfl⟩
  split
  · next hc => exact ⟨_, spells_unit hc⟩
  · next hquote hslash _ _ _ _ _ hplain =>
    exact ⟨_, spells_plain (Nat.not_lt.1 hplain) hquote hslash⟩

theorem utf8_encode (s : String) : Utf8.encode s = s.toList.flatMap String.utf8EncodeChar := by
  rw [Utf8.encode, ← String.utf8Encode_toList, List.utf8Encode, List.toList_data_toByteArray]

/-- **The bytes between the quotes are pieces of the text.** -/
theorem quoted_writeText (s : String) :
    ∃ pieces, Quoted pieces (s.toList.flatMap writeChar) ∧ pieceText pieces = some s := by
  suffices ∀ cs : List Char, ∃ pieces, Quoted pieces (cs.flatMap writeChar) ∧
      pieceBytes pieces = some (cs.flatMap String.utf8EncodeChar) by
    obtain ⟨pieces, hquoted, hbytes⟩ := this s.toList
    refine ⟨pieces, hquoted, ?_⟩
    rw [pieceText, hbytes, ← utf8_encode]
    exact Utf8.decode_encode s
  intro cs
  induction cs with
  | nil => exact ⟨[], .nil, rfl⟩
  | cons c cs ih =>
    obtain ⟨pieces, hquoted, hbytes⟩ := ih
    obtain ⟨head, hspells⟩ := exists_spells c
    refine ⟨head ++ pieces, hspells.quoted hquoted, ?_⟩
    rw [hspells.pieceBytes, hbytes]
    rfl

/-! ## Values -/

/-- The bytes of a name, the way it is written. -/
def nameBytes (s : String) : Bytes := s.toList.flatMap writeChar

theorem nameText_nameBytes (s : String) : nameText (nameBytes s) = some s := by
  obtain ⟨pieces, hquoted, htext⟩ := quoted_writeText s
  rw [nameBytes, nameText_eq hquoted, htext]

theorem label_writeText (s : String) : Label true (nameBytes s) (writeText s ++ [0x3a]) := by
  obtain ⟨pieces, hquoted, -⟩ := quoted_writeText s
  have hlabel := Label.member blank_nil hquoted blank_nil
  simpa only [writeText, nameBytes, List.nil_append, List.cons_append, List.append_assoc]
    using hlabel

theorem read_of_spelled {depth : Nat} {t : Tree} {bytes : Bytes} (h : Spelled depth t bytes) :
    Tree.read depth bytes = some t :=
  read_iff.2 ⟨[], bytes, [], by rw [List.append_nil, List.nil_append], blank_nil, h, blank_nil⟩

theorem reread_eq {x : Binary64} {t : Tree} {j : Json}
    (h : ∀ depth, Spelled depth t (writeNumber (.real x))) (hvalue : t.value? = some j) :
    Number.reread (.real x) = j := by
  rw [Number.reread, parse, read_of_spelled (h maxDepth)]
  change t.value?.getD .null = j
  rw [hvalue, Option.getD_some]

/-- **A double is read as a double**, or as `null` when it is not finite. -/
theorem spelled_real (x : Binary64) :
    (Number.reread (.real x) = .null ∨ ∃ y, Number.reread (.real x) = .number (.real y)) ∧
      ∀ depth, Spelled depth (treeWithin depth (Number.reread (.real x)))
        (writeNumber (.real x)) := by
  have hnull (h : ∀ depth, Spelled depth .null (writeNumber (.real x))) :
      (Number.reread (.real x) = .null ∨ ∃ y, Number.reread (.real x) = .number (.real y)) ∧
        ∀ depth, Spelled depth (treeWithin depth (Number.reread (.real x)))
          (writeNumber (.real x)) := by
    rw [reread_eq h rfl]
    exact ⟨.inl rfl, h⟩
  match x with
  | .signed _ .infinite | .nan => exact hnull fun _ => .null
  | .signed negative (.finite a i) =>
    obtain ⟨n, y, hspelled, hvalue⟩ :=
      readAsReal_documentDigits (Magnitude.bounded_shortest a i) negative
    have hnumber : ∀ depth, Spelled depth (.number (.real y))
        (writeNumber (.real (.signed negative (.finite a i)))) := by
      intro depth
      have hspelled : Spelled depth _ _ := .number hspelled
      rw [Tree.ofNumeral, hvalue] at hspelled
      exact hspelled
    rw [reread_eq hnumber rfl]
    exact ⟨.inr ⟨y, rfl⟩, hnumber⟩

mutual

/-- **What is written for a value is a way to write what is read for it.** -/
theorem spelled_write (depth : Nat) :
    ∀ {j : Json}, j.Legible → Spelled depth (treeWithin depth j.reread) (write j)
  | .null, _ => .null
  | .bool true, _ => .yes
  | .bool false, _ => .no
  | .number (.int n), h => by
    have hspelled : Spelled depth _ _ := .number (spelled_ofInt n)
    rw [Tree.ofNumeral, value?_ofInt h] at hspelled
    exact hspelled
  | .number (.real x), _ => (spelled_real x).2 depth
  | .string s, _ => by
    obtain ⟨pieces, hquoted, htext⟩ := quoted_writeText s
    have hspelled : Spelled depth _ _ := .text hquoted
    rw [Tree.ofPieces, htext] at hspelled
    exact hspelled
  | .array [], _ => .array (.nil blank_nil)
  | .array (a :: as), h => by
    obtain ⟨entries, row, htrees, hbytes, hrow⟩ :=
      row_writeItems (depth - 1) true (List.cons_ne_nil a as) h
    have hspelled : Spelled depth _ _ := .array hrow
    rw [Tree.ofItems, htrees, ← hbytes] at hspelled
    exact hspelled
  | .object [], _ => .object (.nil blank_nil)
  | .object (m :: ms), h => by
    obtain ⟨entries, row, htrees, hbytes, hrow⟩ :=
      row_writeMembers (depth - 1) true (List.cons_ne_nil m ms) h
    have hspelled : Spelled depth _ _ := .object hrow
    rw [Tree.ofMembers, htrees, ← hbytes] at hspelled
    exact hspelled

/-- Items are written as a row, with the bracket behind it. -/
theorem row_writeItems (depth : Nat) (first : Bool) : ∀ {items : List Json}, items ≠ [] →
    NumbersItems Number.Legible items →
      ∃ entries row, entries.map Prod.snd = itemsWithin depth (rereadItems items) ∧
        separator first ++ writeItems items = row ++ [0x5d] ∧ Row false depth first entries row
  | [], hne, _ => absurd rfl hne
  | [a], _, h => by
    have hrow : Row false depth first _ _ :=
      .cons blank_nil .item blank_nil (spelled_write depth h.1) (.nil blank_nil)
    exact ⟨_, _, rfl, by simp [writeItems], hrow⟩
  | a :: b :: bs, _, h => by
    obtain ⟨entries, row, htrees, hbytes, hmore⟩ :=
      row_writeItems depth false (List.cons_ne_nil b bs) h.2
    have hrow : Row false depth first _ _ :=
      .cons blank_nil .item blank_nil (spelled_write depth h.1) hmore
    refine ⟨_, _, ?_, ?_, hrow⟩
    · rw [List.map_cons, htrees]
      rfl
    · have hcomma : 0x2c :: writeItems (b :: bs) = row ++ [0x5d] := hbytes
      rw [writeItems, hcomma]
      · simp
      · exact nofun

/-- Members are written as a row, with the brace behind it. -/
theorem row_writeMembers (depth : Nat) (first : Bool) :
    ∀ {members : List (String × Json)}, members ≠ [] → NumbersMembers Number.Legible members →
      ∃ entries row,
        (entries.map fun e => (nameText e.1, e.2)) = membersWithin depth (rereadMembers members) ∧
        separator first ++ writeMembers members = row ++ [0x7d] ∧ Row true depth first entries row
  | [], hne, _ => absurd rfl hne
  | [(k, a)], _, h => by
    have hrow : Row true depth first _ _ :=
      .cons blank_nil (label_writeText k) blank_nil (spelled_write depth h.1) (.nil blank_nil)
    refine ⟨_, _, ?_, by simp [writeMembers], hrow⟩
    rw [List.map_cons, nameText_nameBytes]
    rfl
  | (k, a) :: m :: ms, _, h => by
    obtain ⟨entries, row, htrees, hbytes, hmore⟩ :=
      row_writeMembers depth false (List.cons_ne_nil m ms) h.2
    have hrow : Row true depth first _ _ :=
      .cons blank_nil (label_writeText k) blank_nil (spelled_write depth h.1) hmore
    refine ⟨_, _, ?_, ?_, hrow⟩
    · rw [List.map_cons, nameText_nameBytes, htrees]
      rfl
    · have hcomma : 0x2c :: writeMembers (m :: ms) = row ++ [0x7d] := hbytes
      rw [writeMembers, hcomma]
      · simp
      · exact nofun

end

/-- **The text of a value reads as what the depth leaves of what is read for it.** -/
theorem read_write_reread (depth : Nat) {j : Json} (h : j.Legible) :
    Tree.read depth (write j) = some (treeWithin depth j.reread) :=
  read_of_spelled (spelled_write depth h)

mutual

/-- Integers of 64 bits are read as they were. -/
theorem reread_of_integral : ∀ {j : Json}, j.Integral → j.Legible ∧ j.reread = j
  | .null, _ | .bool _, _ | .string _, _ => ⟨trivial, rfl⟩
  | .number (.int _), h => ⟨h, rfl⟩
  | .number (.real _), h => h.elim
  | .array _, h =>
    have hitems := rereadItems_of_integral h
    ⟨hitems.1, congrArg Json.array hitems.2⟩
  | .object _, h =>
    have hmembers := rereadMembers_of_integral h
    ⟨hmembers.1, congrArg Json.object hmembers.2⟩

theorem rereadItems_of_integral : ∀ {items : List Json}, NumbersItems Number.Fits items →
    NumbersItems Number.Legible items ∧ rereadItems items = items
  | [], _ => ⟨trivial, rfl⟩
  | _ :: _, h =>
    have ha := reread_of_integral h.1
    have has := rereadItems_of_integral h.2
    ⟨⟨ha.1, has.1⟩, congrArg₂ List.cons ha.2 has.2⟩

theorem rereadMembers_of_integral : ∀ {members : List (String × Json)},
    NumbersMembers Number.Fits members →
      NumbersMembers Number.Legible members ∧ rereadMembers members = members
  | [], _ => ⟨trivial, rfl⟩
  | (k, _) :: _, h =>
    have ha := reread_of_integral h.1
    have has := rereadMembers_of_integral h.2
    ⟨⟨ha.1, has.1⟩, congrArg₂ List.cons (congrArg (k, ·) ha.2) has.2⟩

end

/-- **The text of a value whose numbers are integers reads as what the depth leaves of it.** -/
theorem read_write (depth : Nat) {j : Json} (h : j.Integral) :
    Tree.read depth (write j) = some (treeWithin depth j) := by
  obtain ⟨hlegible, hreread⟩ := reread_of_integral h
  rw [read_write_reread depth hlegible, hreread]

mutual

/-- **What is left of a value is the value, unless it is nested too deep.** -/
theorem value?_treeWithin (depth : Nat) : ∀ {j : Json}, j.Canonical →
    (treeWithin depth j).value? = if j.nesting ≤ depth then some j else none
  | .null, _ | .bool _, _ | .number _, _ | .string _, _ => (if_pos (Nat.zero_le depth)).symm
  | .array items, h => by
    cases depth with
    | zero => rfl
    | succ depth =>
      change (Tree.valueItems (itemsWithin depth items)).map Json.array = _
      rw [valueItems_itemsWithin depth h, nesting]
      simp only [Nat.add_le_add_iff_right]
      split <;> rfl
  | .object members, h => by
    cases depth with
    | zero => rfl
    | succ depth =>
      change (Tree.valueMembers (membersWithin depth members) []).map Json.object = _
      rw [valueMembers_membersWithin depth [] h.1 h.2, nesting]
      simp only [Nat.add_le_add_iff_right]
      split <;> rfl

theorem valueItems_itemsWithin (depth : Nat) : ∀ {items : List Json}, CanonicalItems items →
    Tree.valueItems (itemsWithin depth items) =
      if nestingItems items ≤ depth then some items else none
  | [], _ => (if_pos (Nat.zero_le depth)).symm
  | a :: as, h => by
    rw [itemsWithin, Tree.valueItems, value?_treeWithin depth h.1,
      valueItems_itemsWithin depth h.2, nestingItems]
    simp only [Nat.max_le]
    by_cases ha : a.nesting ≤ depth
    · by_cases has : nestingItems as ≤ depth <;> simp [ha, has]
    · simp [ha]

theorem valueMembers_membersWithin (depth : Nat) : ∀ {members : List (String × Json)}
    (done : List (String × Json)), Ascending (done ++ members) → CanonicalMembers members →
    Tree.valueMembers (membersWithin depth members) done =
      if nestingMembers members ≤ depth then some (done ++ members) else none
  | [], done, _, _ => by
    rw [List.append_nil]
    exact (if_pos (Nat.zero_le depth)).symm
  | (k, a) :: ms, done, hasc, h => by
    rw [List.append_cons] at hasc
    have hinsert : Entries.insert k a done = done ++ [(k, a)] :=
      Entries.insert_concat (hasc.sublist (List.sublist_append_left ..))
    rw [membersWithin, Tree.valueMembers, value?_treeWithin depth h.1, nestingMembers]
    simp only [Nat.max_le]
    by_cases ha : a.nesting ≤ depth
    · simp [ha, hinsert, valueMembers_membersWithin depth _ hasc h.2]
    · simp [ha]

end

/-- **The text of a value stands for the value if and only if the value is not nested too deep.** -/
theorem parse_write_iff {j : Json} (hcanonical : j.Canonical) (hintegral : j.Integral) :
    parse (write j) = some j ↔ j.nesting ≤ maxDepth := by
  rw [parse, read_write maxDepth hintegral]
  change (treeWithin maxDepth j).value? = some j ↔ _
  rw [value?_treeWithin maxDepth hcanonical]
  split
  · next h => exact iff_of_true rfl h
  · next h => exact iff_of_false nofun h

end RegistryProxy.Json
