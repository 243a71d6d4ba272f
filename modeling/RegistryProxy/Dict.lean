/-!
# Dict — finite maps from text, kept in key order

The entries of a `Dict` stand in strictly ascending key order, so two maps that answer every look-up
alike are equal (`ext_find?`) and listing a map needs no further order.  `find?_insert` and
`find?_erase` say what each operation changes.
-/

namespace RegistryProxy

universe u v

/-- Entries in strictly ascending key order; no key occurs twice. -/
def Ascending {α : Type u} (entries : List (String × α)) : Prop :=
  entries.Pairwise fun a b => a.1 < b.1

namespace Entries

variable {α : Type u}

/-- The value of the first entry with this key. -/
def find? (key : String) : List (String × α) → Option α
  | [] => none
  | (k, v) :: rest => if key = k then some v else find? key rest

/-- Puts an entry at its place; an entry with the same key makes way. -/
def insert (key : String) (value : α) : List (String × α) → List (String × α)
  | [] => [(key, value)]
  | (k, v) :: rest =>
    if key = k then (key, value) :: rest
    else if key < k then (key, value) :: (k, v) :: rest
    else (k, v) :: insert key value rest

theorem mem_insert {key : String} {value : α} {e : String × α} {entries : List (String × α)}
    (h : e ∈ insert key value entries) : e = (key, value) ∨ e ∈ entries := by
  induction entries with
  | nil => simpa [insert] using h
  | cons a rest ih =>
    simp only [insert] at h
    split at h
    · rcases List.mem_cons.1 h with h | h
      · exact .inl h
      · exact .inr (List.mem_cons_of_mem _ h)
    · split at h
      · rcases List.mem_cons.1 h with h | h
        · exact .inl h
        · exact .inr h
      · rcases List.mem_cons.1 h with h | h
        · exact .inr (h ▸ List.mem_cons_self)
        · rcases ih h with h | h
          · exact .inl h
          · exact .inr (List.mem_cons_of_mem _ h)

theorem key_lt_of_ne {a b : String} (hne : a ≠ b) (h : ¬ a < b) : b < a :=
  String.not_le.mp fun hle => hne (String.le_antisymm hle (String.not_lt.mp h))

theorem ascending_insert {key : String} {value : α} {entries : List (String × α)}
    (h : Ascending entries) : Ascending (insert key value entries) := by
  induction entries with
  | nil => simp [insert, Ascending]
  | cons a rest ih =>
    obtain ⟨ha, hrest⟩ := List.pairwise_cons.1 h
    simp only [insert]
    split
    · next heq => exact List.pairwise_cons.2 ⟨fun b hb => heq ▸ ha b hb, hrest⟩
    · next hne =>
      split
      · next hlt =>
        refine List.pairwise_cons.2 ⟨fun b hb => ?_, h⟩
        rcases List.mem_cons.1 hb with rfl | hb
        · exact hlt
        · exact String.lt_trans hlt (ha b hb)
      · next hlt =>
        refine List.pairwise_cons.2 ⟨fun b hb => ?_, ih hrest⟩
        rcases mem_insert hb with rfl | hb
        · exact key_lt_of_ne hne hlt
        · exact ha b hb

theorem find?_insert (key key' : String) (value : α) (entries : List (String × α)) :
    find? key' (insert key value entries) =
      if key' = key then some value else find? key' entries := by
  induction entries with
  | nil => simp [insert, find?]
  | cons a rest ih =>
    simp only [insert]
    split
    · next heq => simp only [find?]; split <;> simp_all
    · split
      · simp only [find?]
      · simp only [find?, ih]; split <;> split <;> simp_all

/-- An entry above all others goes behind them. -/
theorem insert_concat {key : String} {value : α} {entries : List (String × α)}
    (h : Ascending (entries ++ [(key, value)])) :
    insert key value entries = entries ++ [(key, value)] := by
  induction entries with
  | nil => rfl
  | cons a rest ih =>
    obtain ⟨ha, hrest⟩ := List.pairwise_cons.1 h
    have hlt : a.1 < key := ha (key, value) (by simp)
    have hne : key ≠ a.1 := fun heq => String.lt_irrefl _ (heq ▸ hlt)
    have hnlt : ¬ key < a.1 := fun hgt => String.lt_irrefl _ (String.lt_trans hlt hgt)
    rw [insert, if_neg hne, if_neg hnlt, ih hrest, List.cons_append]

theorem find?_append (key : String) (entries more : List (String × α)) :
    find? key (entries ++ more) = (find? key entries).or (find? key more) := by
  induction entries with
  | nil => rfl
  | cons a rest ih =>
    simp only [List.cons_append, find?, ih]
    split <;> rfl

theorem find?_eq_none_iff {key : String} {entries : List (String × α)} :
    find? key entries = none ↔ ∀ e ∈ entries, e.1 ≠ key := by
  induction entries with
  | nil => simp [find?]
  | cons a rest ih =>
    rw [find?, List.forall_mem_cons, ← ih]
    split
    · next heq => simp [heq]
    · next hne => simp [Ne.symm hne]

/-- Where every key has one entry, the entries are what is found. -/
theorem find?_eq_some_iff {key : String} {value : α} {entries : List (String × α)}
    (h : (entries.map Prod.fst).Nodup) :
    find? key entries = some value ↔ (key, value) ∈ entries := by
  induction entries with
  | nil => simp [find?]
  | cons a rest ih =>
    obtain ⟨hnew, hrest⟩ := List.nodup_cons.1 h
    rw [find?, List.mem_cons]
    split
    · next heq =>
      subst heq
      have hnone : (a.1, value) ∉ rest := fun hmem => hnew (List.mem_map.2 ⟨_, hmem, rfl⟩)
      simp only [hnone, or_false, Prod.ext_iff, Option.some.injEq, true_and, eq_comm]
    · next hne => simp [ih hrest, Prod.ext_iff, hne]

end Entries

/-- A finite map from text, as its entries in key order. -/
structure Dict (α : Type u) where
  /-- The entries, in key order. -/
  entries : List (String × α)
  /-- Each key is below the next. -/
  ascending : Ascending entries

namespace Dict

variable {α : Type u} {β : Type v}

theorem ext {d e : Dict α} (h : d.entries = e.entries) : d = e := by
  cases d; cases e; cases h; rfl

instance [DecidableEq α] : DecidableEq (Dict α) := fun d e =>
  decidable_of_iff (d.entries = e.entries) ⟨ext, congrArg entries⟩

/-- The map without entries. -/
def empty : Dict α := ⟨[], List.Pairwise.nil⟩

instance : EmptyCollection (Dict α) := ⟨empty⟩

instance : Inhabited (Dict α) := ⟨empty⟩

/-- The value at a key. -/
def find? (d : Dict α) (key : String) : Option α := Entries.find? key d.entries

/-- Whether a key has a value. -/
def contains (d : Dict α) (key : String) : Bool := (d.find? key).isSome

/-- Sets the value at a key. -/
def insert (d : Dict α) (key : String) (value : α) : Dict α :=
  ⟨Entries.insert key value d.entries, Entries.ascending_insert d.ascending⟩

/-- Removes a key. -/
def erase (d : Dict α) (key : String) : Dict α :=
  ⟨d.entries.filter (·.1 != key), d.ascending.filter _⟩

/-- The entries in a list put in one after the other, so that of two with one key the last stays. -/
def ofList (entries : List (String × α)) : Dict α :=
  entries.foldl (fun d e => d.insert e.1 e.2) empty

/-- The keys in ascending order. -/
def keys (d : Dict α) : List String := d.entries.map Prod.fst

/-- The number of entries. -/
def size (d : Dict α) : Nat := d.entries.length

/-- Whether there is no entry. -/
def isEmpty (d : Dict α) : Bool := d.entries.isEmpty

/-- Applies a function to every value. -/
def mapValues (d : Dict α) (f : α → β) : Dict β :=
  ⟨d.entries.map fun e => (e.1, f e.2), by
    simpa only [Ascending, List.pairwise_map] using d.ascending⟩

@[simp] theorem find?_empty (key : String) : (empty : Dict α).find? key = none := rfl

/-- **An insertion changes the value at its own key alone.** -/
theorem find?_insert (d : Dict α) (key key' : String) (value : α) :
    (d.insert key value).find? key' = if key' = key then some value else d.find? key' :=
  Entries.find?_insert key key' value d.entries

@[simp] theorem find?_insert_self (d : Dict α) (key : String) (value : α) :
    (d.insert key value).find? key = some value := by simp [find?_insert]

theorem find?_insert_of_ne (d : Dict α) {key key' : String} (value : α) (h : key' ≠ key) :
    (d.insert key value).find? key' = d.find? key' := by simp [find?_insert, h]

/-- **An erasure empties its own key alone.** -/
theorem find?_erase (d : Dict α) (key key' : String) :
    (d.erase key).find? key' = if key' = key then none else d.find? key' := by
  obtain ⟨entries, _⟩ := d
  simp only [erase, find?]
  induction entries with
  | nil => simp [Entries.find?]
  | cons a rest ih =>
    have hrest := ih (List.Pairwise.of_cons ‹_›)
    by_cases hk : a.1 = key
    · simp only [List.filter_cons, hk, bne_self_eq_false, Bool.false_eq_true, if_false, hrest,
        Entries.find?]
      split <;> simp_all
    · simp only [List.filter_cons, bne_iff_ne, ne_eq, hk, not_false_eq_true, if_true, Entries.find?,
        hrest]
      split <;> split <;> simp_all

theorem mem_of_find? {d : Dict α} {key : String} {value : α} (h : d.find? key = some value) :
    (key, value) ∈ d.entries := by
  obtain ⟨entries, _⟩ := d
  simp only [find?] at h ⊢
  induction entries with
  | nil => simp [Entries.find?] at h
  | cons a rest ih =>
    simp only [Entries.find?] at h
    split at h
    · next heq => cases h; simp [heq]
    · exact List.mem_cons_of_mem _ (ih (List.Pairwise.of_cons ‹_›) h)

/-- No key has two entries. -/
theorem nodup_keys (d : Dict α) : d.keys.Nodup := by
  refine List.pairwise_map.2 (d.ascending.imp ?_)
  intro a b hlt heq
  rw [heq] at hlt
  exact String.lt_irrefl _ hlt

theorem find?_eq_some_iff {d : Dict α} {key : String} {value : α} :
    d.find? key = some value ↔ (key, value) ∈ d.entries :=
  Entries.find?_eq_some_iff d.nodup_keys

theorem mem_keys {d : Dict α} {key : String} :
    key ∈ d.keys ↔ ∃ value, d.find? key = some value := by
  simp [keys, find?_eq_some_iff]

/-- The order in which the entries are gone through does not matter. -/
theorem find?_of_perm {d : Dict α} {entries : List (String × α)} (h : entries.Perm d.entries)
    (key : String) : Entries.find? key entries = d.find? key := by
  have hnodup : (entries.map Prod.fst).Nodup := (h.map Prod.fst).nodup_iff.2 d.nodup_keys
  refine Option.ext fun value => ?_
  rw [Entries.find?_eq_some_iff hnodup, find?_eq_some_iff, h.mem_iff]

/-- The first entry of one of two maps that answer alike is not above that of the other. -/
theorem key_le_of_find? {a b : String × α} {bs : List (String × α)} (hb : Ascending (b :: bs))
    (h : Entries.find? a.1 (b :: bs) = some a.2) : a = b ∨ b.1 < a.1 := by
  have hmem : a ∈ b :: bs := mem_of_find? (d := ⟨b :: bs, hb⟩) h
  rcases List.mem_cons.1 hmem with rfl | hmem
  · exact .inl rfl
  · exact .inr ((List.pairwise_cons.1 hb).1 a hmem)

/-- **Two maps that answer every look-up alike are equal.** -/
theorem ext_find? {d e : Dict α} (h : ∀ key, d.find? key = e.find? key) : d = e := by
  obtain ⟨as, has⟩ := d
  obtain ⟨bs, hbs⟩ := e
  refine ext ?_
  change ∀ key, Entries.find? key as = Entries.find? key bs at h
  change as = bs
  induction as generalizing bs with
  | nil =>
    cases bs with
    | nil => rfl
    | cons b bs => simpa [Entries.find?] using h b.1
  | cons a as ih =>
    cases bs with
    | nil => simpa [Entries.find?] using h a.1
    | cons b bs =>
      have hab := key_le_of_find? hbs ((h a.1).symm.trans (if_pos rfl))
      have hba := key_le_of_find? has ((h b.1).trans (if_pos rfl))
      obtain rfl : a = b := by
        rcases hab with rfl | hlt
        · rfl
        · rcases hba with rfl | hgt
          · rfl
          · exact absurd hlt (String.lt_asymm hgt)
      obtain ⟨ha, has⟩ := List.pairwise_cons.1 has
      obtain ⟨hb, hbs⟩ := List.pairwise_cons.1 hbs
      refine congrArg (a :: ·) (ih has bs hbs fun key => ?_)
      by_cases hkey : key = a.1
      · -- The first key of a map does not occur again.
        have hnone {l : List (String × α)} (hl : ∀ e ∈ l, a.1 < e.1) :
            Entries.find? key l = none := by
          refine Entries.find?_eq_none_iff.2 fun e he heq => ?_
          have hlt := hl e he
          rw [heq, hkey] at hlt
          exact String.lt_irrefl a.1 hlt
        rw [hnone ha, hnone hb]
      · simpa [Entries.find?, hkey] using h key

/-- **The entries of a map put in one after the other make the map.** -/
theorem ofList_entries (d : Dict α) : ofList d.entries = d := by
  have hfold (l : List (String × α)) : ∀ done : Dict α, Ascending (done.entries ++ l) →
      (l.foldl (fun d e => d.insert e.1 e.2) done).entries = done.entries ++ l := by
    induction l with
    | nil => exact fun done _ => (List.append_nil _).symm
    | cons e l ih =>
      intro done h
      rw [List.append_cons] at h
      have hinsert : (done.insert e.1 e.2).entries = done.entries ++ [e] :=
        Entries.insert_concat (h.sublist (List.sublist_append_left ..))
      rw [List.foldl_cons, ih _ (hinsert ▸ h), hinsert, ← List.append_cons]
  exact ext (hfold d.entries empty d.ascending)

/-- The entries of a map made of a list are entries of the list. -/
theorem mem_ofList {entries : List (String × α)} {e : String × α}
    (h : e ∈ (ofList entries).entries) : e ∈ entries := by
  have hfold (l : List (String × α)) : ∀ done : Dict α,
      e ∈ (l.foldl (fun d e => d.insert e.1 e.2) done).entries → e ∈ done.entries ∨ e ∈ l := by
    induction l with
    | nil => exact fun done h => .inl h
    | cons a l ih =>
      intro done h
      rcases ih _ h with h | h
      · rcases Entries.mem_insert h with rfl | h
        · exact .inr List.mem_cons_self
        · exact .inl h
      · exact .inr (List.mem_cons_of_mem _ h)
  rcases hfold entries empty h with h | h
  · exact absurd h List.not_mem_nil
  · exact h

/-- **What is put in later is found first.** -/
theorem find?_ofList_append (entries more : List (String × α)) (key : String) :
    (ofList (entries ++ more)).find? key = ((ofList more).find? key).or
      ((ofList entries).find? key) := by
  have hfold (l : List (String × α)) : ∀ done : Dict α,
      (l.foldl (fun d e => d.insert e.1 e.2) done).find? key =
        ((ofList l).find? key).or (done.find? key) := by
    induction l with
    | nil => exact fun done => rfl
    | cons e l ih =>
      intro done
      rw [ofList, List.foldl_cons, List.foldl_cons, ih, ih (empty.insert e.1 e.2), find?_insert,
        find?_insert, Option.or_assoc]
      split <;> rfl
  rw [ofList, List.foldl_append, hfold]
  rfl

/-- Entries with one key each are found where they stand. -/
theorem find?_ofList_of_nodup {entries : List (String × α)} (h : (entries.map Prod.fst).Nodup)
    (key : String) : (ofList entries).find? key = Entries.find? key entries := by
  induction entries with
  | nil => rfl
  | cons e entries ih =>
    obtain ⟨hnew, hnodup⟩ := List.nodup_cons.1 h
    have hone : (ofList [e]).find? key = if key = e.1 then some e.2 else none :=
      find?_insert empty e.1 key e.2
    rw [← List.singleton_append, find?_ofList_append, ih hnodup, hone, List.singleton_append,
      Entries.find?]
    split
    · next heq =>
      have hnone : Entries.find? key entries = none := by
        refine Entries.find?_eq_none_iff.2 fun e' he' heq' => hnew ?_
        rw [← heq, ← heq']
        exact List.mem_map_of_mem he'
      rw [hnone, Option.none_or]
    · rw [Option.or_none]

end Dict

end RegistryProxy
