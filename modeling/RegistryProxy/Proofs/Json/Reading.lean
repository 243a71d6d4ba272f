import RegistryProxy.Proofs.Json.Tokens

/-!
# Proofs/Json/Reading — the reader takes what the grammar allows

`readEntries` reads a row like the reader of documents and remembers where each entry stands.  What
is read is spelled that way (`readValue_spelled`), and what is spelled is read, wherever it stands
and whatever follows (`readValue_of_spelled`); so the texts of documents are exactly the spelled
ones (`read_iff`).
-/

namespace RegistryProxy.Json

/-! ## Entries where they stand -/

/-- An entry of a row, where it stands in a text. -/
structure Entry where
  /-- The bytes between the quotes of its name; an item has none. -/
  name : Bytes
  /-- The text from its value on, spaces in front allowed. -/
  start : Bytes
  /-- Its value. -/
  tree : Tree
  /-- The text behind its value. -/
  rest : Bytes

namespace Entry

/-- The name and the value. -/
def pair (e : Entry) : Bytes × Tree := (e.name, e.tree)

/-- The bytes of its value. -/
def text (e : Entry) : Bytes :=
  (skipSpace e.start).take ((skipSpace e.start).length - e.rest.length)

end Entry

/-- The bracket behind a row: of members, or of items. -/
def closing (named : Bool) : UInt8 := if named then 0x7d else 0x5d

/-- Reads the name of a member as it is written, with its colon; an item has none. -/
def readLabel (named : Bool) (bytes : Bytes) : Option (Bytes × Bytes) :=
  if named then
    match skipSpace bytes with
    | 0x22 :: rest => do
      let (_, after) ← readPieces rest
      match skipSpace after with
      | 0x3a :: tail => some (rest.take (rest.length - (after.length + 1)), tail)
      | _ => none
    | _ => none
  else some ([], bytes)

/-- **Reads entries up to the closing bracket**, and remembers where each of them stands. -/
def readEntries (named : Bool) (fuel depth : Nat) (first : Bool) (bytes : Bytes) :
    Option (List Entry × Bytes) :=
  match fuel with
  | 0 => none
  | fuel + 1 =>
    match skipSpace bytes with
    | [] => none
    | b :: rest =>
      if b = closing named then some ([], rest)
      else do
        let bytes ← Tree.afterComma first (b :: rest)
        let (name, start) ← readLabel named bytes
        let (tree, rest) ← Tree.readValue fuel depth start
        let (entries, after) ← readEntries named fuel depth false rest
        return ({ name, start, tree, rest } :: entries, after)

variable {named first : Bool} {fuel depth : Nat} {bytes rest : Bytes} {t : Tree}

/-! ## Rows of items and of members -/

theorem readName_eq (bytes : Bytes) :
    Tree.readName bytes = (readLabel true bytes).map fun x => (nameText x.1, x.2) := by
  rw [Tree.readName, readLabel, if_pos rfl]
  cases hspace : skipSpace bytes with
  | nil => rfl
  | cons b rest =>
    by_cases hb : b = 0x22
    · subst hb
      change (readPieces rest).bind _ = ((readPieces rest).bind _).map _
      cases hpieces : readPieces rest with
      | none => rfl
      | some x =>
        obtain ⟨pieces, after⟩ := x
        obtain ⟨quoted, rfl, hquoted⟩ := readPieces_spelled hpieces
        have hname : (quoted ++ 0x22 :: after).take
            ((quoted ++ 0x22 :: after).length - (after.length + 1)) = quoted := by
          rw [List.length_append, List.length_cons, Nat.add_sub_cancel]
          exact List.take_left' rfl
        change (match skipSpace after with
          | 0x3a :: rest => some (pieceText pieces, rest)
          | _ => none) = Option.map _ (match skipSpace after with
          | 0x3a :: tail => some (_, tail)
          | _ => none)
        rw [hname]
        split
        · rw [Option.map_some, nameText_eq hquoted]
        · rfl
    · have hnot {rest' : Bytes} (h : b :: rest = 0x22 :: rest') : False :=
        hb (List.cons.inj h).1
      refine Eq.trans (b := none) ?_ (Eq.symm ?_)
      · split
        next h => exact (hnot h).elim
        next => rfl
      · split
        next h => exact (hnot h).elim
        next => rfl

theorem readValue_nil (fuel depth : Nat) : Tree.readValue fuel depth [] = none := by
  cases fuel with
  | zero => rw [Tree.readValue]
  | succ fuel =>
    rw [Tree.readValue]
    rfl

theorem readItems_eq (fuel depth : Nat) (first : Bool) (bytes : Bytes) :
    Tree.readItems fuel depth first bytes =
      (readEntries false fuel depth first bytes).map fun x => (x.1.map Entry.tree, x.2) := by
  induction fuel generalizing first bytes with
  | zero =>
    rw [Tree.readItems]
    rfl
  | succ fuel ih =>
    rw [Tree.readItems, readEntries]
    cases hspace : skipSpace bytes with
    | nil =>
      cases first with
      | true =>
        change (Tree.readValue fuel depth []).bind _ = none
        rw [readValue_nil]
        rfl
      | false => rfl
    | cons b rest =>
      by_cases hb : b = 0x5d
      · subst hb
        rfl
      · dsimp only
        rw [if_neg (c := b = closing false) hb]
        split
        · next h => exact absurd (List.cons.inj h).1 hb
        · cases Tree.afterComma first (b :: rest) with
          | none => rfl
          | some start =>
            change (Tree.readValue fuel depth start).bind _ =
              ((Tree.readValue fuel depth start).bind _).map _
            cases Tree.readValue fuel depth start with
            | none => rfl
            | some x =>
              obtain ⟨t, after⟩ := x
              change (Tree.readItems fuel depth false after).bind _ =
                ((readEntries false fuel depth false after).bind _).map _
              rw [ih]
              cases readEntries false fuel depth false after <;> rfl

theorem readMembers_eq (fuel depth : Nat) (first : Bool) (bytes : Bytes) :
    Tree.readMembers fuel depth first bytes =
      (readEntries true fuel depth first bytes).map fun x =>
        (x.1.map fun e => (nameText e.name, e.tree), x.2) := by
  induction fuel generalizing first bytes with
  | zero =>
    rw [Tree.readMembers]
    rfl
  | succ fuel ih =>
    rw [Tree.readMembers, readEntries]
    cases hspace : skipSpace bytes with
    | nil => cases first <;> rfl
    | cons b rest =>
      by_cases hb : b = 0x7d
      · subst hb
        rfl
      · dsimp only
        rw [if_neg (c := b = closing true) hb]
        split
        · next h => exact absurd (List.cons.inj h).1 hb
        · cases Tree.afterComma first (b :: rest) with
          | none => rfl
          | some start =>
            change (Tree.readName start).bind _ = ((readLabel true start).bind _).map _
            rw [readName_eq]
            cases readLabel true start with
            | none => rfl
            | some x =>
              obtain ⟨name, start⟩ := x
              change (Tree.readValue fuel depth start).bind _ =
                ((Tree.readValue fuel depth start).bind _).map _
              cases Tree.readValue fuel depth start with
              | none => rfl
              | some x =>
                obtain ⟨t, after⟩ := x
                change (Tree.readMembers fuel depth false after).bind _ =
                  ((readEntries true fuel depth false after).bind _).map _
                rw [ih]
                cases readEntries true fuel depth false after <;> rfl

/-! ## What is read is spelled -/

/-- What stands in front of an entry is taken as it is spelled. -/
theorem readLabel_spelled {name : Bytes} (h : readLabel named bytes = some (name, rest)) :
    ∃ label, bytes = label ++ rest ∧ Label named name label := by
  rw [readLabel] at h
  split at h
  · next hnamed =>
    subst hnamed
    split at h
    · next inside hspace =>
      obtain ⟨⟨pieces, after⟩, hpieces, h⟩ := Option.bind_eq_some_iff.1 h
      obtain ⟨quoted, rfl, hquoted⟩ := readPieces_spelled hpieces
      obtain ⟨before, hbefore, rfl⟩ := exists_blank_of_skipSpace hspace
      dsimp only at h
      split at h
      · next tail hcolon =>
        obtain ⟨gap, hgap, rfl⟩ := exists_blank_of_skipSpace hcolon
        rw [List.length_append, List.length_cons, Nat.add_sub_cancel, List.take_left' rfl] at h
        cases h
        exact ⟨_, by simp, .member hbefore hquoted hgap⟩
      · cases h
    · cases h
  · next hnamed =>
    cases h
    obtain rfl : named = false := Bool.eq_false_iff.2 hnamed
    exact ⟨[], rfl, .item⟩

theorem afterComma_spelled {inside : Bytes} (h : Tree.afterComma first bytes = some inside) :
    bytes = separator first ++ inside := by
  rw [Tree.afterComma.eq_def] at h
  split at h
  · next hfirst =>
    cases h
    rw [separator, if_pos hfirst, List.nil_append]
  · next hfirst =>
    split at h
    · cases h
      rw [separator, if_neg hfirst, List.cons_append, List.nil_append]
    · cases h

/-- **An entry is read as a label and a value**, behind spaces and a comma. -/
theorem readEntries_cases {entries : List Entry}
    (h : readEntries named fuel depth first bytes = some (entries, rest)) :
    (entries = [] ∧ ∃ blank, Blank blank ∧ bytes = blank ++ closing named :: rest) ∨
      ∃ e more before label less, entries = e :: more ∧ fuel = less + 1 ∧ Blank before ∧
        Label named e.name label ∧
        bytes = before ++ (separator first ++ (label ++ e.start)) ∧
        Tree.readValue less depth e.start = some (e.tree, e.rest) ∧
        readEntries named less depth false e.rest = some (more, rest) := by
  cases fuel with
  | zero => cases h
  | succ less =>
    rw [readEntries] at h
    split at h
    · cases h
    next b inside hspace =>
    obtain ⟨before, hbefore, rfl⟩ := exists_blank_of_skipSpace hspace
    split at h
    · next hb =>
      subst hb
      cases h
      exact .inl ⟨rfl, before, hbefore, rfl⟩
    · obtain ⟨inside', hcomma, h⟩ := Option.bind_eq_some_iff.1 h
      obtain ⟨⟨name, start⟩, hlabel, h⟩ := Option.bind_eq_some_iff.1 h
      obtain ⟨⟨t, after⟩, hvalue, h⟩ := Option.bind_eq_some_iff.1 h
      obtain ⟨⟨more, rest'⟩, hmore, h⟩ := Option.bind_eq_some_iff.1 h
      cases h
      obtain ⟨label, rfl, hlabelled⟩ := readLabel_spelled hlabel
      rw [afterComma_spelled hcomma]
      exact .inr ⟨_, more, before, label, less, rfl, rfl, hbefore, hlabelled, rfl, hvalue, hmore⟩

theorem readWord_spelled {word : Bytes} {w : Tree}
    (h : Tree.readWord word w bytes = some (t, rest)) : t = w ∧ bytes = word ++ rest := by
  rw [Tree.readWord] at h
  split at h
  · next hword =>
    cases h
    obtain ⟨rest', rfl⟩ := List.isPrefixOf_iff_prefix.1 hword
    rw [List.drop_left]
    exact ⟨rfl, rfl⟩
  · cases h

/-- The reader with this fuel takes spelled values only. -/
def TakesSpelled (fuel : Nat) : Prop :=
  ∀ ⦃depth : Nat⦄ ⦃bytes rest : Bytes⦄ ⦃t : Tree⦄,
    Tree.readValue fuel depth bytes = some (t, rest) →
      ∃ blank value, Blank blank ∧ bytes = blank ++ (value ++ rest) ∧ Spelled depth t value

/-- What is between brackets is read as a row, if values are read as they are spelled. -/
theorem row_of_readEntries {entries : List Entry} (hvalue : ∀ less < fuel, TakesSpelled less)
    (h : readEntries named fuel depth first bytes = some (entries, rest)) :
    ∃ row, bytes = row ++ closing named :: rest ∧
      Row named depth first (entries.map Entry.pair) row := by
  induction fuel generalizing first bytes entries with
  | zero => cases h
  | succ fuel ih =>
    obtain ⟨rfl, blank, hblank, rfl⟩ | ⟨e, more, before, label, less, rfl, hless, hbefore, hlabel,
      rfl, hread, hmore⟩ := readEntries_cases h
    · exact ⟨blank, rfl, .nil hblank⟩
    · obtain rfl : fuel = less := Nat.succ.inj hless
      obtain ⟨gap, value, hgap, hstart, hspelled⟩ := hvalue fuel (Nat.lt_succ_self _) hread
      obtain ⟨row, hrest, hrow⟩ := ih (fun less hlt => hvalue less (Nat.lt_succ_of_lt hlt)) hmore
      refine ⟨_, ?_, .cons hbefore hlabel hgap hspelled hrow⟩
      rw [hstart, hrest]
      simp

/-- **Every value that is read is spelled by what was taken for it.** -/
theorem takesSpelled (fuel : Nat) : TakesSpelled fuel := by
  induction fuel using Nat.strongRecOn with
  | ind fuel ih =>
  intro depth bytes rest t h
  cases fuel with
  | zero =>
    rw [Tree.readValue] at h
    cases h
  | succ fuel =>
    rw [Tree.readValue] at h
    obtain ⟨blank, hblank, hbytes⟩ := exists_blank bytes
    have hrow := fun less hlt => ih less (Nat.lt_succ_of_lt hlt)
    suffices ∃ value, skipSpace bytes = value ++ rest ∧ Spelled depth t value by
      obtain ⟨value, hskip, hspelled⟩ := this
      exact ⟨blank, value, hblank, hskip ▸ hbytes, hspelled⟩
    clear hbytes
    split at h
    · cases h
    · next inside hskip =>
      obtain ⟨⟨pieces, after⟩, hpieces, h⟩ := Option.bind_eq_some_iff.1 h
      cases h
      obtain ⟨quoted, rfl, hquoted⟩ := readPieces_spelled hpieces
      exact ⟨_, by rw [hskip]; simp, .text hquoted⟩
    · next inside hskip =>
      obtain ⟨⟨items, after⟩, hitems, h⟩ := Option.bind_eq_some_iff.1 h
      cases h
      rw [readItems_eq] at hitems
      obtain ⟨⟨entries, after⟩, hentries, hitems⟩ := Option.map_eq_some_iff.1 hitems
      cases hitems
      obtain ⟨row, rfl, hspelled⟩ := row_of_readEntries hrow hentries
      have harray := Spelled.array hspelled
      rw [Tree.ofItems, List.map_map] at harray
      exact ⟨_, by rw [hskip]; simp [closing], harray⟩
    · next inside hskip =>
      obtain ⟨⟨members, after⟩, hmembers, h⟩ := Option.bind_eq_some_iff.1 h
      cases h
      rw [readMembers_eq] at hmembers
      obtain ⟨⟨entries, after⟩, hentries, hmembers⟩ := Option.map_eq_some_iff.1 hmembers
      cases hmembers
      obtain ⟨row, rfl, hspelled⟩ := row_of_readEntries hrow hentries
      have hobject := Spelled.object hspelled
      rw [Tree.ofMembers, List.map_map] at hobject
      exact ⟨_, by rw [hskip]; simp [closing], hobject⟩
    · next inside hskip =>
      obtain ⟨⟨n, after⟩, hnumber, h⟩ := Option.bind_eq_some_iff.1 h
      cases h
      obtain ⟨numeral, rfl, hnumeral⟩ := readNumeral_spelled hnumber
      exact ⟨_, by rw [hskip]; simp, .number hnumeral⟩
    · next inside hskip =>
      obtain ⟨rfl, rfl⟩ := readWord_spelled h
      exact ⟨_, by rw [hskip]; rfl, .null⟩
    · next inside hskip =>
      obtain ⟨rfl, rfl⟩ := readWord_spelled h
      exact ⟨_, by rw [hskip]; rfl, .yes⟩
    · next inside hskip =>
      obtain ⟨rfl, rfl⟩ := readWord_spelled h
      exact ⟨_, by rw [hskip]; rfl, .no⟩
    · obtain ⟨⟨n, after⟩, hnumber, h⟩ := Option.bind_eq_some_iff.1 h
      cases h
      obtain ⟨numeral, hskip, hnumeral⟩ := readNumeral_spelled hnumber
      exact ⟨_, hskip, .number hnumeral⟩

/-- **What is read is spelled**: the reader takes spaces and one value. -/
theorem readValue_spelled (h : Tree.readValue fuel depth bytes = some (t, rest)) :
    ∃ blank value, Blank blank ∧ bytes = blank ++ (value ++ rest) ∧ Spelled depth t value :=
  takesSpelled fuel h

/-- A value begins with a byte that opens it. -/
theorem Spelled.head {value : Bytes} (h : Spelled depth t value) :
    ∃ b more, value = b :: more ∧ isSpace b = false ∧ b ≠ 0x5d := by
  cases h with
  | @number depth n bytes numeral =>
    obtain ⟨_, rfl, ⟨b, more, rfl, hb⟩, _⟩ := readNumeral_of_spelled numeral
    by_cases hnegative : n.negative = true
    · exact ⟨0x2d, b :: more, by simp [hnegative], by decide, by decide⟩
    · refine ⟨b, more, by simp [hnegative], ?_, ?_⟩
      · refine Bool.eq_false_iff.2 fun hspace => ?_
        rcases isSpace_cases hspace with rfl | rfl | rfl | rfl <;> cases hb
      · rintro rfl
        cases hb
  | _ => exact ⟨_, _, rfl, by decide, by decide⟩

theorem Spelled.length_pos {value : Bytes} (h : Spelled depth t value) : 0 < value.length := by
  obtain ⟨b, more, rfl, -⟩ := h.head
  exact Nat.succ_pos _

/-- An entry holds the bytes of its value, behind spaces. -/
theorem Entry.text_spelled {e : Entry}
    (h : Tree.readValue fuel depth e.start = some (e.tree, e.rest)) :
    ∃ gap, Blank gap ∧ e.start = gap ++ (e.text ++ e.rest) ∧ Spelled depth e.tree e.text := by
  obtain ⟨gap, value, hgap, hstart, hvalue⟩ := readValue_spelled h
  have htext : e.text = value := by
    obtain ⟨b, more, rfl, hspace, -⟩ := hvalue.head
    rw [Entry.text, hstart, skipSpace_append hgap, List.cons_append, skipSpace_cons hspace,
      ← List.cons_append, List.length_append, Nat.add_sub_cancel, List.take_left' rfl]
  exact ⟨gap, hgap, htext ▸ hstart, htext ▸ hvalue⟩

/-- Every entry that is read is one that stands there. -/
theorem mem_readEntries {entries : List Entry}
    (h : readEntries named fuel depth first bytes = some (entries, rest)) :
    ∀ e ∈ entries, e.start.length ≤ bytes.length ∧ e.rest.length ≤ e.start.length ∧
      ∃ less, Tree.readValue less depth e.start = some (e.tree, e.rest) := by
  induction entries generalizing fuel first bytes with
  | nil => exact nofun
  | cons e more ih =>
    obtain ⟨hnil, -⟩ | ⟨e', more', before, label, less, hentries, -, -, -, rfl, hvalue, hmore⟩ :=
      readEntries_cases h
    · cases hnil
    cases hentries
    obtain ⟨gap, -, hstart, -⟩ := Entry.text_spelled hvalue
    have hrest : e.rest.length ≤ e.start.length := by
      rw [hstart, List.length_append, List.length_append]
      omega
    have hle : e.start.length ≤ (before ++ (separator first ++ (label ++ e.start))).length := by
      simp only [List.length_append]
      omega
    refine List.forall_mem_cons.2 ⟨⟨hle, hrest, less, hvalue⟩, fun x hx => ?_⟩
    obtain ⟨hstart', hrest'⟩ := ih hmore x hx
    exact ⟨by omega, hrest'⟩

theorem readEntries_spelled {entries : List Entry}
    (h : readEntries named fuel depth first bytes = some (entries, rest)) :
    ∃ row, bytes = row ++ closing named :: rest ∧
      Row named depth first (entries.map Entry.pair) row :=
  row_of_readEntries (fun less _ => takesSpelled less) h

/-! ## What is spelled is read -/

/-- Behind a value in a row no number goes on. -/
theorem Row.ends {entries : List (Bytes × Tree)} {row : Bytes}
    (h : Row named depth false entries row) (rest : Bytes) :
    Ends (row ++ closing named :: rest) := by
  cases h with
  | nil hblank =>
    refine ends_blank hblank ?_
    cases named <;> decide
  | cons hbefore _ _ _ _ =>
    rw [List.append_assoc]
    exact ends_blank hbefore (by decide)

theorem readLabel_of_label {name label : Bytes} (h : Label named name label) (start : Bytes) :
    readLabel named (label ++ start) = some (name, start) := by
  cases h with
  | item => rfl
  | @member name before after pieces hbefore hquoted hafter =>
    have hlabel : before ++ 0x22 :: (name ++ 0x22 :: (after ++ [0x3a])) ++ start =
        before ++ 0x22 :: (name ++ 0x22 :: (after ++ 0x3a :: start)) := by simp
    rw [hlabel, readLabel, if_pos rfl, skipSpace_append hbefore, skipSpace_cons (by decide)]
    change (readPieces _).bind _ = _
    rw [readPieces_of_quoted hquoted]
    change (match skipSpace (after ++ 0x3a :: start) with
      | 0x3a :: tail => some (_, tail)
      | _ => none) = _
    rw [skipSpace_append hafter, skipSpace_cons (by decide), List.length_append, List.length_cons,
      Nat.add_sub_cancel, List.take_left' rfl]
    rfl

theorem readValue_blank {blank : Bytes} (h : Blank blank) (fuel depth : Nat) (bytes : Bytes) :
    Tree.readValue fuel depth (blank ++ bytes) = Tree.readValue fuel depth bytes := by
  cases fuel with
  | zero => rw [Tree.readValue, Tree.readValue]
  | succ fuel => rw [Tree.readValue, Tree.readValue, skipSpace_append h]

/-- The bytes of an entry, from its comma on, when no space stands in front of it. -/
theorem readLabel_afterComma (first : Bool) {name before label gap value : Bytes}
    (hbefore : Blank before) (hlabel : Label named name label) (hgap : Blank gap)
    (hvalue : Spelled depth t value) (after : Bytes) :
    ∃ b more inside start, skipSpace
        (before ++ (separator first ++ (label ++ (gap ++ (value ++ after))))) = b :: more ∧
      b ≠ closing named ∧ Tree.afterComma first (b :: more) = some inside ∧
      readLabel named inside = some (name, start) ∧
      (start = gap ++ (value ++ after) ∨ start = value ++ after) := by
  rw [skipSpace_append hbefore]
  cases first with
  | false =>
    refine ⟨0x2c, _, _, _, skipSpace_cons (by decide) _, ?_, rfl, readLabel_of_label hlabel _,
      .inl rfl⟩
    cases named <;> decide
  | true =>
    change ∃ b more inside start, skipSpace (label ++ (gap ++ (value ++ after))) = b :: more ∧ _
    cases hlabel with
    | item =>
      obtain ⟨b, more, rfl, hspace, hclosing⟩ := hvalue.head
      rw [List.nil_append, skipSpace_append hgap, List.cons_append, skipSpace_cons hspace]
      exact ⟨b, _, _, _, rfl, hclosing, rfl, rfl, .inr rfl⟩
    | @member name before' after' pieces hbefore' hquoted hafter' =>
      rw [List.append_assoc, skipSpace_append hbefore', List.cons_append,
        skipSpace_cons (by decide)]
      exact ⟨0x22, _, _, _, rfl, by decide, rfl,
        readLabel_of_label (.member blank_nil hquoted hafter') _, .inl rfl⟩

/-- Behind spaces and a comma, an entry is read as a label and a value. -/
theorem readEntries_cons (fuel : Nat) {name before label gap value after : Bytes}
    (hbefore : Blank before) (hlabel : Label named name label) (hgap : Blank gap)
    (hvalue : Spelled depth t value) :
    ∃ start, readEntries named (fuel + 1) depth first
        (before ++ (separator first ++ (label ++ (gap ++ (value ++ after))))) = (do
      let (tree, rest) ← Tree.readValue fuel depth (value ++ after)
      let (entries, behind) ← readEntries named fuel depth false rest
      return ({ name, start, tree, rest } :: entries, behind)) := by
  obtain ⟨b, more, inside, start, hspace, hclosing, hcomma, hname, hstart⟩ :=
    readLabel_afterComma first hbefore hlabel hgap hvalue after
  have hread : Tree.readValue fuel depth start = Tree.readValue fuel depth (value ++ after) := by
    rcases hstart with rfl | rfl
    · exact readValue_blank hgap ..
    · rfl
  refine ⟨start, ?_⟩
  rw [readEntries, hspace]
  dsimp only
  rw [if_neg hclosing, hcomma, ← hread]
  change (readLabel named inside).bind _ = _
  rw [hname]
  rfl

theorem readValue_of_numeral {n : Numeral} (h : NumeralSpelled n bytes) (hrest : Ends rest) :
    Tree.readValue (fuel + 1) depth (bytes ++ rest) = some (.ofNumeral n, rest) := by
  obtain ⟨_, rfl, ⟨b, more, rfl, hb⟩, hread⟩ := readNumeral_of_spelled h
  have hread := hread rest hrest
  rw [Tree.readValue]
  by_cases hnegative : n.negative = true
  · rw [if_pos hnegative, List.append_assoc, List.cons_append, skipSpace_cons (by decide),
      List.nil_append]
    rw [hnegative] at hread
    change (readNumeral true _).bind _ = _
    rw [hread]
    rfl
  · rw [if_neg hnegative, List.nil_append, List.cons_append]
    rw [Bool.eq_false_iff.2 hnegative] at hread
    have hspace : isSpace b = false := by
      refine Bool.eq_false_iff.2 fun hspace => ?_
      rcases isSpace_cases hspace with rfl | rfl | rfl | rfl <;> cases hb
    rw [skipSpace_cons hspace]
    split
    case h_9 =>
      change (readNumeral false _).bind _ = _
      rw [← List.cons_append, hread]
      rfl
    case h_1 h => cases h
    -- No other value begins with a digit.
    all_goals
      next h =>
      cases h
      cases hb

mutual

/-- **A value is read wherever it ends**, with fuel for its length. -/
theorem readValue_of_spelled {depth : Nat} {t : Tree} {value : Bytes} :
    Spelled depth t value → ∀ (fuel : Nat), 2 * value.length ≤ fuel → ∀ {rest : Bytes}, Ends rest →
      Tree.readValue fuel depth (value ++ rest) = some (t, rest)
  | .null, fuel + 1, hfuel, rest, hrest => by
    rw [Tree.readValue]
    rfl
  | .yes, fuel + 1, hfuel, rest, hrest => by
    rw [Tree.readValue]
    rfl
  | .no, fuel + 1, hfuel, rest, hrest => by
    rw [Tree.readValue]
    rfl
  | .number numeral, fuel, hfuel, rest, hrest => by
    have hspelled : Spelled depth _ _ := .number numeral
    have hpos := hspelled.length_pos
    obtain ⟨less, rfl⟩ : ∃ less, fuel = less + 1 := ⟨fuel - 1, by omega⟩
    exact readValue_of_numeral numeral hrest
  | .text quoted, fuel + 1, hfuel, rest, hrest => by
    rw [List.cons_append, List.append_assoc, Tree.readValue, skipSpace_cons (by decide)]
    change (readPieces _).bind _ = _
    rw [List.cons_append, readPieces_of_quoted quoted]
    rfl
  | .array row, fuel + 1, hfuel, rest, hrest => by
    rw [List.length_cons, List.length_append] at hfuel
    obtain ⟨es, hread, rfl⟩ := readEntries_of_row row fuel (by omega) rest
    rw [List.cons_append, List.append_assoc, Tree.readValue, skipSpace_cons (by decide)]
    change (Tree.readItems fuel _ true (_ ++ closing false :: rest)).bind _ = _
    rw [readItems_eq, hread, Tree.ofItems, List.map_map]
    rfl
  | .object row, fuel + 1, hfuel, rest, hrest => by
    rw [List.length_cons, List.length_append] at hfuel
    obtain ⟨es, hread, rfl⟩ := readEntries_of_row row fuel (by omega) rest
    rw [List.cons_append, List.append_assoc, Tree.readValue, skipSpace_cons (by decide)]
    change (Tree.readMembers fuel _ true (_ ++ closing true :: rest)).bind _ = _
    rw [readMembers_eq, hread, Tree.ofMembers, List.map_map]
    rfl

/-- **So is a row**, up to its bracket. -/
theorem readEntries_of_row {named first : Bool} {depth : Nat} {entries : List (Bytes × Tree)}
    {row : Bytes} : Row named depth first entries row → ∀ (fuel : Nat), 2 * row.length + 1 ≤ fuel →
      ∀ rest, ∃ es, readEntries named fuel depth first (row ++ closing named :: rest) =
        some (es, rest) ∧ es.map Entry.pair = entries
  | .nil hblank, fuel + 1, hfuel, rest => by
    rw [readEntries, skipSpace_append hblank]
    cases named <;> exact ⟨[], rfl, rfl⟩
  | .cons hbefore hlabel hgap hvalue hrow, fuel + 1, hfuel, rest => by
    simp only [List.length_append] at hfuel
    have hpos := hvalue.length_pos
    obtain ⟨start, hcons⟩ := readEntries_cons fuel hbefore hlabel hgap hvalue
    obtain ⟨es, hread, rfl⟩ := readEntries_of_row hrow fuel (by omega) rest
    simp only [List.append_assoc]
    rw [hcons, readValue_of_spelled hvalue fuel (by omega) (hrow.ends rest)]
    change ∃ es', (readEntries _ fuel _ false _).bind _ = _ ∧ _
    rw [hread]
    exact ⟨_, rfl, rfl⟩

end

/-! ## Documents -/

/-- **The documents are the spelled ones**, with spaces around them. -/
theorem read_iff : Tree.read depth bytes = some t ↔
    ∃ before value after, bytes = before ++ (value ++ after) ∧ Blank before ∧
      Spelled depth t value ∧ Blank after := by
  rw [Tree.read]
  constructor
  · intro h
    obtain ⟨⟨t', after⟩, hvalue, h⟩ := Option.bind_eq_some_iff.1 h
    obtain ⟨_, hguard, h⟩ := Option.bind_eq_some_iff.1 h
    cases h
    obtain ⟨before, value, hbefore, rfl, hspelled⟩ := readValue_spelled hvalue
    obtain ⟨blank, hblank, hafter⟩ := exists_blank after
    rw [List.isEmpty_iff.1 (of_guard hguard), List.append_nil] at hafter
    exact ⟨before, value, after, rfl, hbefore, hspelled, hafter ▸ hblank⟩
  · rintro ⟨before, value, after, rfl, hbefore, hspelled, hafter⟩
    have hfuel : 2 * value.length ≤ 2 * (before ++ (value ++ after)).length + 2 := by
      simp only [List.length_append]
      omega
    have hskip : skipSpace after = [] := by
      rw [← List.append_nil after, skipSpace_append hafter]
      rfl
    have hread := readValue_of_spelled hspelled _ hfuel (ends_of_blank hafter)
    rw [readValue_blank hbefore, hread]
    change (guard (skipSpace after).isEmpty >>= fun _ => some t) = _
    rw [hskip]
    rfl

end RegistryProxy.Json
