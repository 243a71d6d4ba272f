import RegistryProxy.Text.Utf8

/-!
# Http/Headers — names, values and maps of headers

A header map holds any number of values for a name, in the order they came.  `insert` leaves one
value and `append` adds one; neither touches another name (`values_insert`, `values_append`).
-/

namespace RegistryProxy

/-- The value of a header. -/
structure HeaderValue where
  /-- What is sent. -/
  bytes : Bytes
  /-- Whether it is kept out of logs. -/
  sensitive : Bool := false
  deriving DecidableEq

namespace HeaderValue

/-- Whether a byte may stand in a value: tab, and everything from the space on but delete. -/
def isAllowed (b : UInt8) : Bool := (0x20 ≤ b && b != 0x7f) || b == 0x09

/-- Whether a byte is plain text: tab, or visible ASCII. -/
def isPlain (b : UInt8) : Bool := (0x20 ≤ b && b < 0x7f) || b == 0x09

/-- The value with these bytes. -/
def ofBytes? (bytes : Bytes) : Option HeaderValue :=
  if bytes.all isAllowed then some { bytes } else none

/-- The value with this text. -/
def ofText? (s : String) : Option HeaderValue := ofBytes? (Utf8.encode s)

/-- The text of a value that is plain. -/
def text? (v : HeaderValue) : Option String :=
  if v.bytes.all isPlain then some (String.ofList (v.bytes.map fun b => Char.ofNat b.toNat))
  else none

/-- The value, kept out of logs. -/
def secret (v : HeaderValue) : HeaderValue := { v with sensitive := true }

theorem toNat_lt_of_isPlain {b : UInt8} (h : isPlain b = true) : b.toNat < 128 := by
  simp only [isPlain, Bool.or_eq_true, Bool.and_eq_true, decide_eq_true_eq, beq_iff_eq] at h
  rcases h with ⟨-, hlt⟩ | rfl
  · exact Nat.lt_trans (UInt8.lt_iff_toNat_lt.1 hlt) (by decide)
  · decide

/-- **The text of a plain value has its bytes.** -/
theorem encode_of_text? {v : HeaderValue} {s : String} (h : v.text? = some s) :
    Utf8.encode s = v.bytes := by
  rw [text?] at h
  split at h
  next hplain =>
    obtain rfl := Option.some.inj h
    rw [Utf8.encode_ofList]
    generalize v.bytes = bytes at hplain
    induction bytes with
    | nil => rfl
    | cons b rest ih =>
      obtain ⟨hb, hrest⟩ : isPlain b = true ∧ rest.all isPlain = true := by simpa using hplain
      rw [List.map_cons, List.flatMap_cons, Utf8.utf8EncodeChar_ofNat (toNat_lt_of_isPlain hb),
        UInt8.ofNat_toNat, ih hrest]
      rfl
  next => cases h

theorem eq_of_ofText? {s : String} {v : HeaderValue} (h : ofText? s = some v) :
    v = { bytes := Utf8.encode s } := by
  rw [ofText?, ofBytes?] at h
  split at h
  · exact (Option.some.inj h).symm
  · cases h

end HeaderValue

/-- The name of a header, in lower case. -/
abbrev HeaderName := String

namespace HeaderName

/-- Whether a character may stand in a name. -/
def isAllowed (c : Char) : Bool :=
  c.isAlphanum || "!\"#$%&'*+-.^_`|~".toList.contains c

/-- The name a text spells, in any case. -/
def ofText? (s : String) : Option HeaderName :=
  if s.toList ≠ [] ∧ s.toList.all isAllowed ∧ s.length < 65536 then
    some (String.ofList (s.toList.map Char.toLower))
  else none

end HeaderName

/-- Names with their values, in order. -/
structure Headers where
  /-- The entries, oldest first. -/
  entries : List (HeaderName × HeaderValue) := []
  deriving DecidableEq

namespace Headers

instance : EmptyCollection Headers := ⟨{}⟩

/-- All values of a name, oldest first. -/
def values (h : Headers) (name : HeaderName) : List HeaderValue :=
  h.entries.filterMap fun e => if e.1 = name then some e.2 else none

/-- The oldest value of a name. -/
def get? (h : Headers) (name : HeaderName) : Option HeaderValue := (h.values name).head?

/-- Whether a name has a value. -/
def contains (h : Headers) (name : HeaderName) : Bool := (h.get? name).isSome

/-- Removes all values of a name. -/
def erase (h : Headers) (name : HeaderName) : Headers :=
  ⟨h.entries.filter fun e => e.1 ≠ name⟩

/-- Adds a value after those that a name has. -/
def append (h : Headers) (name : HeaderName) (value : HeaderValue) : Headers :=
  ⟨h.entries ++ [(name, value)]⟩

/-- Makes a value the only one of its name. -/
def insert (h : Headers) (name : HeaderName) (value : HeaderValue) : Headers :=
  (h.erase name).append name value

/-- Adds a value only when the name has none. -/
def insertIfNew (h : Headers) (name : HeaderName) (value : HeaderValue) : Headers :=
  if h.contains name then h else h.append name value

theorem values_append (h : Headers) (name name' : HeaderName) (value : HeaderValue) :
    (h.append name value).values name' =
      h.values name' ++ if name = name' then [value] else [] := by
  simp only [append, values, List.filterMap_append, List.filterMap_cons, List.filterMap_nil]
  split <;> simp_all

theorem values_erase (h : Headers) (name name' : HeaderName) :
    (h.erase name).values name' = if name' = name then [] else h.values name' := by
  obtain ⟨entries⟩ := h
  induction entries with
  | nil => simp [erase, values]
  | cons e rest ih =>
    simp only [erase, values] at ih ⊢
    by_cases he : e.1 = name <;> by_cases hn : e.1 = name' <;> grind

/-- **An insertion leaves one value under its name and touches no other.** -/
theorem values_insert (h : Headers) (name name' : HeaderName) (value : HeaderValue) :
    (h.insert name value).values name' = if name' = name then [value] else h.values name' := by
  rw [insert, values_append, values_erase]
  by_cases hn : name' = name
  · simp [hn]
  · simp [hn, Ne.symm hn]

theorem contains_iff {h : Headers} {name : HeaderName} :
    h.contains name = true ↔ h.values name ≠ [] := by
  rw [contains, get?]
  cases h.values name <;> simp

/-- **What is there already stays.** -/
theorem values_insertIfNew (h : Headers) (name name' : HeaderName) (value : HeaderValue) :
    (h.insertIfNew name value).values name' =
      if name' = name ∧ h.values name = [] then [value] else h.values name' := by
  by_cases hpresent : h.values name = []
  · rw [insertIfNew, if_neg (by simp [contains_iff, hpresent]), values_append]
    by_cases hn : name' = name
    · simp [hn, hpresent]
    · simp [hn, Ne.symm hn]
  · rw [insertIfNew, if_pos (contains_iff.2 hpresent), if_neg fun h => hpresent h.2]

/-- **Of values put in one after the other the last one stays.** -/
theorem values_foldl_insert (entries : List (HeaderName × HeaderValue)) (h : Headers)
    (name : HeaderName) : (entries.foldl (fun h e => h.insert e.1 e.2) h).values name =
      ((values ⟨entries⟩ name).getLast?).elim (h.values name) fun value => [value] := by
  induction entries generalizing h with
  | nil => rfl
  | cons e rest ih =>
    rw [List.foldl_cons, ih, values_insert]
    by_cases hn : e.1 = name
    · have hvalues : values ⟨e :: rest⟩ name = e.2 :: values ⟨rest⟩ name := by simp [values, hn]
      rw [if_pos hn.symm, hvalues, List.getLast?_cons]
      cases (values ⟨rest⟩ name).getLast? <;> rfl
    · have hvalues : values ⟨e :: rest⟩ name = values ⟨rest⟩ name := by simp [values, hn]
      rw [if_neg (Ne.symm hn), hvalues]

end Headers

end RegistryProxy
