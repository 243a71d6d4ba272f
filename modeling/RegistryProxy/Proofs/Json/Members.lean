import RegistryProxy.Json.Fields
import RegistryProxy.Proofs.Json.Writing

/-!
# Proofs/Json/Members — what readers of fields make of what was written

`Reads depth item j a` says that the reader `item` gives `a` back for the value `j`, unless `j` is
nested deeper than `depth`.  It passes from the values of a map to the map (`reads_map`), and the
members of a structure come apart again into those it knows and those it carries (`split?_written`).
-/

namespace RegistryProxy.Json

variable {α : Type} {depth : Nat}

/-- **A reader gives `a` back for a value**, unless the value is nested deeper than `depth`. -/
def Reads (depth : Nat) (item : Tree → Option α) (j : Json) (a : α) : Prop :=
  ∀ b, item (treeWithin depth j) = some b ↔ j.nesting ≤ depth ∧ b = a

theorem reads_of_eq {item : Tree → Option α} {j : Json} {a : α}
    (h : item (treeWithin depth j) = if j.nesting ≤ depth then some a else none) :
    Reads depth item j a := by
  intro b
  rw [h]
  split
  · next hle => simp [hle, eq_comm]
  · next hle => simp [hle]

theorem reads_text (s : String) : Reads depth Tree.text? (.string s) s :=
  reads_of_eq (if_pos (Nat.zero_le depth)).symm

theorem reads_integer {low high n : Int} (h : low ≤ n ∧ n ≤ high) :
    Reads depth (Tree.integer? low high) (.number (.int n)) n :=
  reads_of_eq ((if_pos h).trans (if_pos (Nat.zero_le depth)).symm)

theorem reads_value {j : Json} (h : j.Canonical) : Reads depth Tree.value? j j :=
  reads_of_eq (value?_treeWithin depth h)

/-! ## Members -/

theorem nestingMembers_le {members : List (String × Json)} :
    nestingMembers members ≤ depth ↔ ∀ m ∈ members, m.2.nesting ≤ depth := by
  induction members with
  | nil => simp [nestingMembers]
  | cons m members ih => rw [nestingMembers, Nat.max_le, ih, List.forall_mem_cons]

theorem membersWithin_eq (members : List (String × Json)) :
    membersWithin depth members = members.map fun m => (some m.1, treeWithin depth m.2) := by
  induction members with
  | nil => rfl
  | cons m members ih => rw [membersWithin, ih, List.map_cons]

/-- The entries of a map, each written by `write`, are read one by one. -/
theorem entriesOf?_written {item : Tree → Option α} {write : α → Json} {entries : List (String × α)}
    (h : ∀ e ∈ entries, Reads depth item (write e.2) e.2) (found : List (String × α)) :
    Tree.entriesOf? item (membersWithin depth (entries.map fun e => (e.1, write e.2))) =
      some found ↔ (∀ e ∈ entries, (write e.2).nesting ≤ depth) ∧ found = entries := by
  induction entries generalizing found with
  | nil => simp [membersWithin, Tree.entriesOf?, eq_comm]
  | cons e entries ih =>
    obtain ⟨he, hentries⟩ := List.forall_mem_cons.1 h
    simp only [List.map_cons, membersWithin, Tree.entriesOf?, Option.bind_eq_bind,
      Option.bind_some, Option.bind_eq_some_iff, he _, ih hentries, List.forall_mem_cons]
    constructor
    · rintro ⟨a, ⟨hnesting, rfl⟩, more, ⟨hmore, rfl⟩, hfound⟩
      exact ⟨⟨hnesting, hmore⟩, (Option.some.inj hfound).symm⟩
    · rintro ⟨⟨hnesting, hmore⟩, rfl⟩
      exact ⟨_, ⟨hnesting, rfl⟩, _, ⟨hmore, rfl⟩, rfl⟩

theorem ofList_written {item : Tree → Option α} {write : α → Json} {d : Dict α}
    (h : ∀ e ∈ d.entries, Reads depth item (write e.2) e.2) (b : Dict α) :
    (Tree.entriesOf? item (membersWithin depth (d.entries.map fun e => (e.1, write e.2)))).map
      Dict.ofList = some b ↔ (∀ e ∈ d.entries, (write e.2).nesting ≤ depth) ∧ b = d := by
  simp only [Option.map_eq_some_iff, entriesOf?_written h]
  constructor
  · rintro ⟨_, ⟨hnesting, rfl⟩, rfl⟩
    exact ⟨hnesting, d.ofList_entries⟩
  · rintro ⟨hnesting, rfl⟩
    exact ⟨_, ⟨hnesting, rfl⟩, b.ofList_entries⟩

/-- **A map is read back** when its values are. -/
theorem reads_map {item : Tree → Option α} (write : α → Json) {d : Dict α}
    (h : ∀ e ∈ d.entries, ∀ depth, Reads depth item (write e.2) e.2) :
    Reads depth (Tree.mapOf? item) (.object (d.entries.map fun e => (e.1, write e.2))) d := by
  intro b
  cases depth with
  | zero => exact iff_of_false nofun fun h => Nat.not_succ_le_zero _ h.1
  | succ depth =>
    rw [nesting, Nat.add_le_add_iff_right, nestingMembers_le, List.forall_mem_map]
    exact ofList_written (fun e he => h e he depth) b

/-- What is carried along is read back. -/
theorem rest?_written {d : Dict Json} (h : ∀ e ∈ d.entries, e.2.Canonical) (b : Dict Json) :
    Tree.rest? (membersWithin depth d.entries) = some b ↔
      (∀ e ∈ d.entries, e.2.nesting ≤ depth) ∧ b = d := by
  have hvalues : ∀ e ∈ d.entries, Reads depth Tree.value? (id e.2) e.2 :=
    fun e he => reads_value (h e he)
  have hwritten := ofList_written hvalues b
  rw [show (d.entries.map fun e => (e.1, id e.2)) = d.entries from List.map_id _] at hwritten
  exact hwritten

/-! ## Structures -/

theorem names?_membersWithin (members : List (String × Json)) :
    Tree.names? (membersWithin depth members) = some (members.map Prod.fst) := by
  rw [Tree.names?]
  induction members with
  | nil => rfl
  | cons m members ih =>
    rw [membersWithin, List.mapM_cons, ih]
    rfl

/-- A member is found where its entry is. -/
theorem member?_map (f : α → Tree) (name : String) (entries : List (String × α)) :
    Tree.member? name (entries.map fun e => (some e.1, f e.2)) =
      (Entries.find? name entries).map f := by
  rw [Tree.member?]
  induction entries with
  | nil => rfl
  | cons e entries ih =>
    rw [List.map_cons, List.find?_cons, Entries.find?]
    by_cases hname : name = e.1
    · simp [hname]
    · rw [show (some e.1 == some name) = false by simp [Ne.symm hname], if_neg hname]
      exact ih

theorem any_name {names : List String} {name : String} :
    (names.any fun k => some name == some k) = true ↔ name ∈ names := by
  simp

/-- **The members of a structure come apart again**: those it knows, each once, and those it
carries, none of which has the name of a known one. -/
theorem split?_written (depth : Nat) {names : List String} {known carried : List (String × Json)}
    (hknown : ∀ m ∈ known, m.1 ∈ names) (honce : (known.map Prod.fst).Nodup)
    (hcarried : ∀ m ∈ carried, m.1 ∉ names) :
    ∃ field, Tree.split? names (.object (membersWithin depth (known ++ carried))) =
        some (field, membersWithin depth carried) ∧
      ∀ name ∈ names, field name = (Entries.find? name known).map (treeWithin depth) := by
  have hguard : Tree.knownOnce names ((known ++ carried).map Prod.fst) = true := by
    refine List.all_eq_true.2 fun k hk => decide_eq_true ?_
    have hnone : (carried.map Prod.fst).count k = 0 := by
      refine List.count_eq_zero.2 fun hmem => ?_
      obtain ⟨m, hm, rfl⟩ := List.mem_map.1 hmem
      exact hcarried m hm hk
    rw [List.map_append, List.count_append, hnone]
    exact List.nodup_iff_count.1 honce k
  have hfilter : ((membersWithin depth (known ++ carried)).filter fun m =>
      !(names.any fun k => m.1 == some k)) = membersWithin depth carried := by
    rw [membersWithin_eq, membersWithin_eq, List.map_append, List.filter_append,
      List.filter_eq_nil_iff.2, List.filter_eq_self.2, List.nil_append]
    · refine List.forall_mem_map.2 fun m hm => ?_
      rw [Bool.not_eq_true', Bool.eq_false_iff]
      exact mt any_name.1 (hcarried m hm)
    · refine List.forall_mem_map.2 fun m hm => ?_
      rw [Bool.not_eq_true', Bool.eq_false_iff, ne_eq, Classical.not_not]
      exact any_name.2 (hknown m hm)
  refine ⟨fun name => Tree.member? name (membersWithin depth (known ++ carried)), ?_, ?_⟩
  · rw [Tree.split?, names?_membersWithin]
    change (guard (Tree.knownOnce names _ = true) : Option Unit).bind _ = _
    rw [hguard, hfilter]
    rfl
  · intro name hname
    have hnone : Entries.find? name carried = none :=
      Entries.find?_eq_none_iff.2 fun m hm heq => hcarried m hm (heq ▸ hname)
    change Tree.member? name _ = _
    rw [membersWithin_eq, member?_map, Entries.find?_append, hnone, Option.or_none]

/-- **A structure is read back** when it is put together again from its fields and what it
carries. -/
theorem reads_structure {names : List String} {item : Tree → Option α} {a : α}
    {build : (String → Option Tree) × List (Option String × Tree) → Option α}
    (hnone : item .meaningless = none)
    (hitem : ∀ members, item (.object members) = (Tree.split? names (.object members)).bind build)
    (known carried : List (String × Json)) (hknown : ∀ m ∈ known, m.1 ∈ names)
    (honce : (known.map Prod.fst).Nodup) (hcarried : ∀ m ∈ carried, m.1 ∉ names)
    (hbuild : ∀ depth field,
      (∀ name ∈ names, field name = (Entries.find? name known).map (treeWithin depth)) →
      ∀ b, build (field, membersWithin depth carried) = some b ↔
        (∀ m ∈ known, m.2.nesting ≤ depth) ∧ (∀ m ∈ carried, m.2.nesting ≤ depth) ∧ b = a) :
    Reads depth item (.object (known ++ carried)) a := by
  intro b
  cases depth with
  | zero =>
    change item .meaningless = some b ↔ _
    rw [hnone]
    exact iff_of_false nofun fun h => Nat.not_succ_le_zero _ h.1
  | succ depth =>
    obtain ⟨field, hsplit, hfield⟩ := split?_written depth hknown honce hcarried
    change item (.object (membersWithin depth (known ++ carried))) = some b ↔ _
    rw [hitem, hsplit, nesting, Nat.add_le_add_iff_right, nestingMembers_le, List.forall_mem_append,
      and_assoc]
    exact hbuild depth field hfield b

/-! ## What is read -/

/-- No entry of a map has one of these names. -/
def Avoids (names : List String) (d : Dict α) : Prop := ∀ e ∈ d.entries, e.1 ∉ names

theorem mem_entriesOf? {item : Tree → Option α} {members : List (Option String × Tree)}
    {found : List (String × α)} (h : Tree.entriesOf? item members = some found) :
    ∀ e ∈ found, ∃ t, (some e.1, t) ∈ members ∧ item t = some e.2 := by
  induction members generalizing found with
  | nil =>
    cases h
    exact nofun
  | cons m members ih =>
    rw [Tree.entriesOf?] at h
    obtain ⟨name, hname, h⟩ := Option.bind_eq_some_iff.1 h
    obtain ⟨a, ha, h⟩ := Option.bind_eq_some_iff.1 h
    obtain ⟨rest, hrest, h⟩ := Option.bind_eq_some_iff.1 h
    cases h
    refine List.forall_mem_cons.2 ⟨⟨m.2, ?_, ha⟩, fun e he => ?_⟩
    · rw [← hname]
      exact List.mem_cons_self
    · obtain ⟨t, ht, hitem⟩ := ih hrest e he
      exact ⟨t, List.mem_cons_of_mem m ht, hitem⟩

/-- A value of a map has been read from somewhere. -/
theorem mem_mapOf? {item : Tree → Option α} {t : Tree} {d : Dict α}
    (h : Tree.mapOf? item t = some d) : ∀ e ∈ d.entries, ∃ t', item t' = some e.2 := by
  intro e he
  rw [Tree.mapOf?.eq_def] at h
  split at h
  · obtain ⟨found, hfound, rfl⟩ := Option.map_eq_some_iff.1 h
    obtain ⟨t', -, hitem⟩ := mem_entriesOf? hfound e (Dict.mem_ofList he)
    exact ⟨t', hitem⟩
  · cases h

theorem mem_orElse_mapOf? {item : Tree → Option α} {t : Option Tree} {d : Dict α}
    (h : Tree.orElse ∅ (Tree.mapOf? item) t = some d) :
    ∀ e ∈ d.entries, ∃ t', item t' = some e.2 := by
  cases t with
  | none =>
    cases h
    exact nofun
  | some t => exact mem_mapOf? h

/-- **What a structure carries has no name that it knows.** -/
theorem avoids_rest? {names : List String} {t : Tree} {field : String → Option Tree}
    {members : List (Option String × Tree)} {d : Dict Json}
    (hsplit : Tree.split? names t = some (field, members)) (hrest : Tree.rest? members = some d) :
    Avoids names d := by
  intro e he hname
  obtain ⟨found, hfound, rfl⟩ := Option.map_eq_some_iff.1 hrest
  obtain ⟨t', hmem, -⟩ := mem_entriesOf? hfound e (Dict.mem_ofList he)
  rw [Tree.split?.eq_def] at hsplit
  split at hsplit
  · obtain ⟨_, _, hsplit⟩ := Option.bind_eq_some_iff.1 hsplit
    obtain ⟨_, _, hsplit⟩ := Option.bind_eq_some_iff.1 hsplit
    cases hsplit
    have hunknown := (List.mem_filter.1 hmem).2
    rw [Bool.not_eq_true', Bool.eq_false_iff] at hunknown
    exact hunknown (any_name.2 hname)
  · cases hsplit

end RegistryProxy.Json
