import RegistryProxy.Proofs.Json.Members

/-!
# Proofs/Json/Values — what the value of a tree has from the tree

A value is in name order whatever the tree is, it is nested no deeper than the tree, and it has no
other numbers (`inherits`).  What has been read is nested no deeper than the reader goes
(`nesting_of_read`), and its numbers are legible (`legible_of_read`), which both stays when its text
is read again (`stays_reread`).  `settled` is the value of what a value that is not in name order
says; a structure settles to the object that answers every look-up alike (`settled_structure`).
-/

namespace RegistryProxy.Json

variable {α : Type} {depth : Nat}

/-! ## Induction -/

/-- What holds of every leaf, and of a container when it holds inside, holds of every tree. -/
@[elab_as_elim] theorem Tree.induct {motive : Tree → Prop} (null : motive .null)
    (bool : ∀ b, motive (.bool b)) (number : ∀ n, motive (.number n))
    (string : ∀ s, motive (.string s)) (meaningless : motive .meaningless)
    (array : ∀ items, (∀ t ∈ items, motive t) → motive (.array items))
    (object : ∀ members : List (Option String × Tree), (∀ m ∈ members, motive m.2) →
      motive (.object members)) (t : Tree) : motive t :=
  @Tree.rec motive (fun items => ∀ t ∈ items, motive t) (fun members => ∀ m ∈ members, motive m.2)
    (fun m => motive m.2) null bool number string array object meaningless nofun
    (fun _ _ head tail => List.forall_mem_cons.2 ⟨head, tail⟩) nofun
    (fun _ _ head tail => List.forall_mem_cons.2 ⟨head, tail⟩) (fun _ _ h => h) t

/-- What holds of every leaf, and of a container when it holds inside, holds of every value. -/
@[elab_as_elim] theorem induct {motive : Json → Prop} (null : motive .null)
    (bool : ∀ b, motive (.bool b)) (number : ∀ n, motive (.number n))
    (string : ∀ s, motive (.string s))
    (array : ∀ items, (∀ a ∈ items, motive a) → motive (.array items))
    (object : ∀ members : List (String × Json), (∀ m ∈ members, motive m.2) →
      motive (.object members)) (j : Json) : motive j :=
  @Json.rec motive (fun items => ∀ a ∈ items, motive a) (fun members => ∀ m ∈ members, motive m.2)
    (fun m => motive m.2) null bool number string array object nofun
    (fun _ _ head tail => List.forall_mem_cons.2 ⟨head, tail⟩) nofun
    (fun _ _ head tail => List.forall_mem_cons.2 ⟨head, tail⟩) (fun _ _ h => h) j

/-! ## Trees -/

namespace Tree

mutual

/-- Whether every number in a tree has a property. -/
def Numbers (P : Number → Prop) : Tree → Prop
  | .number n => P n
  | .array items => NumbersItems P items
  | .object members => NumbersMembers P members
  | _ => True

/-- `Numbers` for every item. -/
def NumbersItems (P : Number → Prop) : List Tree → Prop
  | [] => True
  | t :: ts => Numbers P t ∧ NumbersItems P ts

/-- `Numbers` for every member. -/
def NumbersMembers (P : Number → Prop) : List (Option String × Tree) → Prop
  | [] => True
  | (_, t) :: ts => Numbers P t ∧ NumbersMembers P ts

end

/-- Whether every number in a tree is an integer of 64 bits. -/
abbrev Integral (t : Tree) : Prop := t.Numbers Number.Fits

/-- Whether every number in a tree is one that a document may have. -/
abbrev Legible (t : Tree) : Prop := t.Numbers Number.Legible

mutual

/-- **How deep the containers of a tree are nested.** -/
def nesting : Tree → Nat
  | .array items => nestingItems items + 1
  | .object members => nestingMembers members + 1
  | _ => 0

/-- The deepest nesting of an item. -/
def nestingItems : List Tree → Nat
  | [] => 0
  | t :: ts => max (nesting t) (nestingItems ts)

/-- The deepest nesting of a member. -/
def nestingMembers : List (Option String × Tree) → Nat
  | [] => 0
  | (_, t) :: ts => max (nesting t) (nestingMembers ts)

end

/-- What holds of the numbers of items holds of those of each. -/
theorem numbersItems_iff {P : Number → Prop} {items : List Tree} :
    NumbersItems P items ↔ ∀ t ∈ items, t.Numbers P := by
  induction items with
  | nil => simp [NumbersItems]
  | cons t ts ih => rw [NumbersItems, ih, List.forall_mem_cons]

theorem numbersMembers_iff {P : Number → Prop} {members : List (Option String × Tree)} :
    NumbersMembers P members ↔ ∀ m ∈ members, m.2.Numbers P := by
  induction members with
  | nil => simp [NumbersMembers]
  | cons m ms ih => rw [NumbersMembers, ih, List.forall_mem_cons]

/-- Items are nested as deep as the deepest of them. -/
theorem nestingItems_le {items : List Tree} :
    nestingItems items ≤ depth ↔ ∀ t ∈ items, t.nesting ≤ depth := by
  induction items with
  | nil => simp [nestingItems]
  | cons t ts ih => rw [nestingItems, Nat.max_le, ih, List.forall_mem_cons]

theorem nestingMembers_le {members : List (Option String × Tree)} :
    nestingMembers members ≤ depth ↔ ∀ m ∈ members, m.2.nesting ≤ depth := by
  induction members with
  | nil => simp [nestingMembers]
  | cons m ms ih => rw [nestingMembers, Nat.max_le, ih, List.forall_mem_cons]

/-- A value that is nested too deep has no meaning, and is not nested then. -/
theorem nesting_within {t : Tree} (h : t.nesting ≤ depth - 1 + 1) :
    (within depth t).nesting ≤ depth := by
  rw [within]
  split
  · exact Nat.zero_le depth
  · omega

theorem nesting_ofNumeral (n : Numeral) : (ofNumeral n).nesting = 0 := by
  rw [ofNumeral]
  cases n.value? <;> rfl

theorem nesting_ofPieces (pieces : List Piece) : (ofPieces pieces).nesting = 0 := by
  rw [ofPieces]
  cases pieceText pieces <;> rfl

theorem nesting_ofItems_le {entries : List (Bytes × Tree)}
    (h : ∀ e ∈ entries, e.2.nesting ≤ depth) : (ofItems entries).nesting ≤ depth + 1 :=
  Nat.succ_le_succ (nestingItems_le.2 (List.forall_mem_map.2 h))

theorem nesting_ofMembers_le {entries : List (Bytes × Tree)}
    (h : ∀ e ∈ entries, e.2.nesting ≤ depth) : (ofMembers entries).nesting ≤ depth + 1 :=
  Nat.succ_le_succ (nestingMembers_le.2 (List.forall_mem_map.2 h))

end Tree

mutual

/-- **What is spelled is nested no deeper than it may be.** -/
theorem nesting_of_spelled {depth : Nat} {t : Tree} {bytes : Bytes} :
    Spelled depth t bytes → t.nesting ≤ depth
  | .null | .yes | .no => Nat.zero_le depth
  | .number _ => Nat.le_trans (Nat.le_of_eq (Tree.nesting_ofNumeral _)) (Nat.zero_le depth)
  | .text _ => Nat.le_trans (Nat.le_of_eq (Tree.nesting_ofPieces _)) (Nat.zero_le depth)
  | .array row => Tree.nesting_within (Tree.nesting_ofItems_le (nesting_of_row row))
  | .object row => Tree.nesting_within (Tree.nesting_ofMembers_le (nesting_of_row row))

theorem nesting_of_row {named first : Bool} {depth : Nat} {entries : List (Bytes × Tree)}
    {bytes : Bytes} : Row named depth first entries bytes → ∀ e ∈ entries, e.2.nesting ≤ depth
  | .nil _ => nofun
  | .cons _ _ _ spelled rest =>
    List.forall_mem_cons.2 ⟨nesting_of_spelled spelled, nesting_of_row rest⟩

end

/-- **What has been read is nested no deeper than the reader goes.** -/
theorem nesting_of_read {bytes : Bytes} {t : Tree} (h : Tree.read depth bytes = some t) :
    t.nesting ≤ depth := by
  obtain ⟨_, _, _, -, -, hspelled, -⟩ := read_iff.1 h
  exact nesting_of_spelled hspelled

/-! ## Numbers -/

/-- **The value of a number is one that a document may have.** -/
theorem legible_value? {n : Numeral} {value : Number} (h : n.value? = some value) :
    value.Legible := by
  have hsum := gather_lt (show 0 < 0x10000000000000000 by decide) n.whole
  rw [Numeral.value?] at h
  generalize Numeral.gather 0 n.whole = taken at *
  obtain ⟨sum, dropped⟩ := taken
  dsimp only at h hsum
  split at h
  next =>
    split at h
    next =>
      cases h
      exact ⟨by omega, by omega⟩
    next =>
      split at h
      next hbounds =>
        cases h
        exact ⟨by omega, by omega⟩
      next =>
        cases h
        trivial
  next =>
    obtain ⟨_, -, rfl⟩ := Option.map_eq_some_iff.1 h
    trivial

/-- A number that is too large to be one has no meaning. -/
theorem legible_ofNumeral (n : Numeral) : (Tree.ofNumeral n).Legible := by
  rw [Tree.ofNumeral]
  cases hvalue : n.value? with
  | none => trivial
  | some value => exact legible_value? hvalue

theorem legible_ofPieces (pieces : List Piece) : (Tree.ofPieces pieces).Legible := by
  rw [Tree.ofPieces]
  cases pieceText pieces <;> trivial

/-- What has no meaning has no numbers. -/
theorem legible_within {t : Tree} (h : t.Legible) : (Tree.within depth t).Legible := by
  rw [Tree.within]
  split
  · trivial
  · exact h

mutual

/-- **The numbers that are spelled are those that a document may have.** -/
theorem legible_of_spelled {depth : Nat} {t : Tree} {bytes : Bytes} :
    Spelled depth t bytes → t.Legible
  | .null | .yes | .no => trivial
  | .number _ => legible_ofNumeral _
  | .text _ => legible_ofPieces _
  | .array row => legible_within (Tree.numbersItems_iff.2
      (List.forall_mem_map.2 (legible_of_row row)))
  | .object row => legible_within (Tree.numbersMembers_iff.2
      (List.forall_mem_map.2 (legible_of_row row)))

theorem legible_of_row {named first : Bool} {depth : Nat} {entries : List (Bytes × Tree)}
    {bytes : Bytes} : Row named depth first entries bytes → ∀ e ∈ entries, e.2.Legible
  | .nil _ => nofun
  | .cons _ _ _ spelled rest =>
    List.forall_mem_cons.2 ⟨legible_of_spelled spelled, legible_of_row rest⟩

end

/-- **What has been read has no numbers but those that a document may have.** -/
theorem legible_of_read {bytes : Bytes} {t : Tree} (h : Tree.read depth bytes = some t) :
    t.Legible := by
  obtain ⟨_, _, _, -, -, hspelled, -⟩ := read_iff.1 h
  exact legible_of_spelled hspelled

/-! ## Values of trees -/

/-- Items are in name order if each of them is. -/
theorem canonicalItems_iff {items : List Json} :
    CanonicalItems items ↔ ∀ a ∈ items, a.Canonical := by
  induction items with
  | nil => simp [CanonicalItems]
  | cons a as ih => rw [CanonicalItems, ih, List.forall_mem_cons]

theorem canonicalMembers_iff {members : List (String × Json)} :
    CanonicalMembers members ↔ ∀ m ∈ members, m.2.Canonical := by
  induction members with
  | nil => simp [CanonicalMembers]
  | cons m ms ih => rw [CanonicalMembers, ih, List.forall_mem_cons]

theorem numbersItems_iff {P : Number → Prop} {items : List Json} :
    NumbersItems P items ↔ ∀ a ∈ items, a.Numbers P := by
  induction items with
  | nil => simp [NumbersItems]
  | cons a as ih => rw [NumbersItems, ih, List.forall_mem_cons]

theorem numbersMembers_iff {P : Number → Prop} {members : List (String × Json)} :
    NumbersMembers P members ↔ ∀ m ∈ members, m.2.Numbers P := by
  induction members with
  | nil => simp [NumbersMembers]
  | cons m ms ih => rw [NumbersMembers, ih, List.forall_mem_cons]

theorem nestingItems_le {items : List Json} :
    nestingItems items ≤ depth ↔ ∀ a ∈ items, a.nesting ≤ depth := by
  induction items with
  | nil => simp [nestingItems]
  | cons a as ih => rw [nestingItems, Nat.max_le, ih, List.forall_mem_cons]

/-- The values of members are the map of what no field took. -/
theorem valueMembers_eq (members : List (Option String × Tree)) (done : List (String × Json)) :
    Tree.valueMembers members done = (Tree.entriesOf? Tree.value? members).map fun entries =>
      entries.foldl (fun done e => Entries.insert e.1 e.2 done) done := by
  induction members generalizing done with
  | nil => rfl
  | cons m members ih =>
    obtain ⟨name, t⟩ := m
    rw [Tree.valueMembers, Tree.entriesOf?]
    cases name with
    | none => rfl
    | some name =>
      cases ht : t.value? with
      | none => simp
      | some a =>
        simp only [Option.bind_eq_bind, Option.bind_some, ih]
        cases Tree.entriesOf? Tree.value? members <;> rfl

/-- The value of an object is the map of its members. -/
theorem value?_object (members : List (Option String × Tree)) :
    (Tree.object members).value? = (Tree.rest? members).map fun d => .object d.entries := by
  have hentries (entries : List (String × Json)) (d : Dict Json) :
      (entries.foldl (fun d e => d.insert e.1 e.2) d).entries =
        entries.foldl (fun done e => Entries.insert e.1 e.2 done) d.entries := by
    induction entries generalizing d with
    | nil => rfl
    | cons e entries ih => exact ih (d.insert e.1 e.2)
  rw [Tree.value?, valueMembers_eq, Tree.rest?, Option.map_map, Option.map_map]
  refine congrArg (Option.map · _) (funext fun entries => congrArg Json.object ?_)
  exact (hentries entries .empty).symm

/-- **What a value has from its tree.** -/
structure Inherits (t : Tree) (j : Json) : Prop where
  /-- Every object is in name order. -/
  canonical : j.Canonical
  /-- It is nested no deeper. -/
  nesting : j.nesting ≤ t.nesting
  /-- Its numbers are numbers of the tree. -/
  numbers : ∀ P, t.Numbers P → j.Numbers P

theorem mem_valueItems {items : List Tree} {values : List Json}
    (h : Tree.valueItems items = some values) : ∀ a ∈ values, ∃ t ∈ items, t.value? = some a := by
  induction items generalizing values with
  | nil =>
    cases h
    exact nofun
  | cons t ts ih =>
    rw [Tree.valueItems] at h
    obtain ⟨a, ha, h⟩ := Option.bind_eq_some_iff.1 h
    obtain ⟨as, has, h⟩ := Option.bind_eq_some_iff.1 h
    cases h
    refine List.forall_mem_cons.2 ⟨⟨t, List.mem_cons_self, ha⟩, fun a' ha' => ?_⟩
    obtain ⟨t', ht', hvalue⟩ := ih has a' ha'
    exact ⟨t', List.mem_cons_of_mem t ht', hvalue⟩

/-- What a structure carries has been a member. -/
theorem mem_rest? {members : List (Option String × Tree)} {d : Dict Json}
    (h : Tree.rest? members = some d) :
    ∀ e ∈ d.entries, ∃ t, (some e.1, t) ∈ members ∧ t.value? = some e.2 := by
  intro e he
  obtain ⟨found, hfound, rfl⟩ := Option.map_eq_some_iff.1 h
  exact mem_entriesOf? hfound e (Dict.mem_ofList he)

/-- **A value has nothing that its tree has not.** -/
theorem inherits {t : Tree} {j : Json} (h : t.value? = some j) : Inherits t j := by
  induction t using Tree.induct generalizing j with
  | null | bool | string =>
    cases h
    exact ⟨trivial, Nat.le_refl _, fun _ _ => trivial⟩
  | number =>
    cases h
    exact ⟨trivial, Nat.le_refl _, fun _ => id⟩
  | meaningless => cases h
  | array items ih =>
    obtain ⟨values, hvalues, rfl⟩ := Option.map_eq_some_iff.1 h
    have hall : ∀ a ∈ values, ∃ t ∈ items, Inherits t a := by
      intro a ha
      obtain ⟨t, ht, hvalue⟩ := mem_valueItems hvalues a ha
      exact ⟨t, ht, ih t ht hvalue⟩
    refine ⟨canonicalItems_iff.2 fun a ha => ?_,
      Nat.succ_le_succ (nestingItems_le.2 fun a ha => ?_),
      fun P hnumbers => numbersItems_iff.2 fun a ha => ?_⟩
    all_goals obtain ⟨t, ht, hinherits⟩ := hall a ha
    · exact hinherits.canonical
    · exact Nat.le_trans hinherits.nesting (Tree.nestingItems_le.1 (Nat.le_refl _) t ht)
    · exact hinherits.numbers P (Tree.numbersItems_iff.1 hnumbers t ht)
  | object members ih =>
    rw [value?_object] at h
    obtain ⟨d, hd, rfl⟩ := Option.map_eq_some_iff.1 h
    have hall : ∀ e ∈ d.entries, ∃ m ∈ members, Inherits m.2 e.2 := by
      intro e he
      obtain ⟨t, ht, hvalue⟩ := mem_rest? hd e he
      exact ⟨(some e.1, t), ht, ih _ ht hvalue⟩
    refine ⟨⟨d.ascending, canonicalMembers_iff.2 fun e he => ?_⟩,
      Nat.succ_le_succ (nestingMembers_le.2 fun e he => ?_),
      fun P hnumbers => numbersMembers_iff.2 fun e he => ?_⟩
    all_goals obtain ⟨m, hm, hinherits⟩ := hall e he
    · exact hinherits.canonical
    · exact Nat.le_trans hinherits.nesting (Tree.nestingMembers_le.1 (Nat.le_refl _) m hm)
    · exact hinherits.numbers P (Tree.numbersMembers_iff.1 hnumbers m hm)

/-! ## What a value says -/

/-- **The value of what a value says**: its objects are put in name order, and of two members with
one name the last stays. -/
def settled (j : Json) : Json := j.tree.value?.getD .null

theorem treeMembers_eq (members : List (String × Json)) :
    treeMembers members = members.map fun m => (some m.1, m.2.tree) := by
  induction members with
  | nil => rfl
  | cons m members ih => rw [treeMembers, ih, List.map_cons]

/-- The entries of a value are read one by one. -/
theorem entriesOf?_tree {item : Tree → Option α} {value : Json → α} {members : List (String × Json)}
    (h : ∀ m ∈ members, item m.2.tree = some (value m.2)) :
    Tree.entriesOf? item (treeMembers members) =
      some (members.map fun m => (m.1, value m.2)) := by
  induction members with
  | nil => rfl
  | cons m members ih =>
    obtain ⟨hm, hmembers⟩ := List.forall_mem_cons.1 h
    rw [treeMembers, Tree.entriesOf?, hm, ih hmembers]
    rfl

/-- The items of a value are read one by one. -/
theorem valueItems_tree {value : Json → Json} {items : List Json}
    (h : ∀ a ∈ items, a.tree.value? = some (value a)) :
    Tree.valueItems (treeItems items) = some (items.map value) := by
  induction items with
  | nil => rfl
  | cons a items ih =>
    obtain ⟨ha, hitems⟩ := List.forall_mem_cons.1 h
    rw [treeItems, Tree.valueItems, ha, ih hitems]
    rfl

/-- Every value says something. -/
theorem value?_tree (j : Json) : j.tree.value? = some j.settled := by
  induction j using induct with
  | null | bool | number | string => rfl
  | array items ih => simp only [settled, tree, Tree.value?, valueItems_tree ih, Option.map_some,
      Option.getD_some]
  | object members ih =>
    rw [settled, tree, value?_object, Tree.rest?, entriesOf?_tree ih]
    rfl

/-- The members of an object are settled one by one. -/
theorem settled_object (members : List (String × Json)) :
    (object members).settled = ofMembers (members.map fun m => (m.1, m.2.settled)) := by
  rw [settled, tree, value?_object, Tree.rest?, entriesOf?_tree fun m _ => value?_tree m.2]
  rfl

/-- Members in name order stay as they are. -/
theorem ofMembers_of_ascending {members : List (String × Json)} (h : Ascending members) :
    ofMembers members = object members :=
  congrArg (fun d : Dict Json => object d.entries) (Dict.ofList_entries ⟨members, h⟩)

/-- What is in name order is settled. -/
theorem settled_of_canonical {j : Json} (h : j.Canonical) : j.settled = j := by
  induction j using induct with
  | null | bool | number | string => rfl
  | array items ih =>
    have hvalue : ∀ a ∈ items, a.tree.value? = some (id a) := by
      intro a ha
      rw [value?_tree, ih a ha (canonicalItems_iff.1 h a ha), id]
    simp only [settled, tree, Tree.value?, valueItems_tree hvalue, Option.map_some,
      Option.getD_some, List.map_id]
  | object members ih =>
    have hsettled : (members.map fun m => (m.1, m.2.settled)) = members.map id :=
      List.map_congr_left fun m hm => congrArg (m.1, ·) (ih m hm (canonicalMembers_iff.1 h.2 m hm))
    rw [settled_object, hsettled, List.map_id, ofMembers_of_ascending h.1]

/-! ## What is read for a value -/

/-- **What stays of a value** when its text is read. -/
structure Stays (j a : Json) : Prop where
  /-- Every object stays in name order. -/
  canonical : j.Canonical → a.Canonical
  /-- It is nested as deep. -/
  nesting : a.nesting = j.nesting
  /-- Its numbers are still such as a document may have. -/
  legible : j.Legible → a.Legible

/-- A number is read as one that a document may have, or as nothing. -/
theorem stays_number (n : Number) : Stays (.number n) n.reread := by
  cases n with
  | int n => exact ⟨id, rfl, id⟩
  | real x =>
    obtain hnull | ⟨y, hreal⟩ := (spelled_real x).1
    · rw [hnull]
      exact ⟨fun _ => trivial, rfl, fun _ => trivial⟩
    · rw [hreal]
      exact ⟨fun _ => trivial, rfl, fun _ => trivial⟩

theorem rereadMembers_eq (members : List (String × Json)) :
    rereadMembers members = members.map fun m => (m.1, m.2.reread) := by
  induction members with
  | nil => rfl
  | cons m ms ih => rw [rereadMembers, ih, List.map_cons]

theorem rereadMembers_append (members more : List (String × Json)) :
    rereadMembers (members ++ more) = rereadMembers members ++ rereadMembers more := by
  simp only [rereadMembers_eq, List.map_append]

/-- The values of a map are read one by one. -/
theorem rereadMembers_entries (d : Dict Json) :
    rereadMembers d.entries = (d.mapValues reread).entries :=
  rereadMembers_eq d.entries

/-- Reading members again keeps their order. -/
theorem ascending_rereadMembers {members : List (String × Json)} (h : Ascending members) :
    Ascending (rereadMembers members) := by
  rw [rereadMembers_eq]
  exact List.pairwise_map.2 h

mutual

/-- **What is read of a written value** is nested as deep, in the same order. -/
theorem stays_reread : ∀ j : Json, Stays j j.reread
  | .null | .bool _ | .string _ => ⟨id, rfl, id⟩
  | .number n => stays_number n
  | .array items =>
    have hitems := stays_rereadItems items
    ⟨hitems.1, congrArg (· + 1) hitems.2.1, hitems.2.2⟩
  | .object members =>
    have hmembers := stays_rereadMembers members
    ⟨fun h => ⟨ascending_rereadMembers h.1, hmembers.1 h.2⟩, congrArg (· + 1) hmembers.2.1,
      hmembers.2.2⟩

theorem stays_rereadItems : ∀ items : List Json,
    (CanonicalItems items → CanonicalItems (rereadItems items)) ∧
      nestingItems (rereadItems items) = nestingItems items ∧
      (NumbersItems Number.Legible items → NumbersItems Number.Legible (rereadItems items))
  | [] => ⟨id, rfl, id⟩
  | a :: as =>
    have ha := stays_reread a
    have has := stays_rereadItems as
    ⟨And.imp ha.canonical has.1, congrArg₂ max ha.nesting has.2.1, And.imp ha.legible has.2.2⟩

theorem stays_rereadMembers : ∀ members : List (String × Json),
    (CanonicalMembers members → CanonicalMembers (rereadMembers members)) ∧
      nestingMembers (rereadMembers members) = nestingMembers members ∧
      (NumbersMembers Number.Legible members →
        NumbersMembers Number.Legible (rereadMembers members))
  | [] => ⟨id, rfl, id⟩
  | (_, a) :: ms =>
    have ha := stays_reread a
    have hms := stays_rereadMembers ms
    ⟨And.imp ha.canonical hms.1, congrArg₂ max ha.nesting hms.2.1, And.imp ha.legible hms.2.2⟩

end

end RegistryProxy.Json
