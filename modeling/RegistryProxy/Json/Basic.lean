import RegistryProxy.Binary64.Basic
import RegistryProxy.Dict
import RegistryProxy.Text.Utf8

/-!
# Json/Basic — documents as values, and documents as written

`Json` is a value: members of an object are entries of a map.  `Json.Tree` is what a text says
before anybody asks for its value: members stand in the order of the text, a name may occur twice,
and a leaf that no value fits (a number beyond every double, half a surrogate pair, too deep a
nesting) is kept as `meaningless`, so that a reader that skips it need not mind.  `Tree.value?`
leads from the second to the first, `Json.tree` back.
-/

namespace RegistryProxy

/-- A number of a document: an integer of 64 bits, or a double.  Those read from a text are
finite. -/
inductive Json.Number where
  /-- At least `-2 ^ 63` and below `2 ^ 64`. -/
  | int (value : Int)
  /-- Written with a point or an exponent, or beyond 64 bits. -/
  | real (value : Binary64)
  deriving DecidableEq, Repr

/-- A document as a value. -/
inductive Json where
  /-- The value `null`. -/
  | null
  /-- A truth value. -/
  | bool (value : Bool)
  /-- A number. -/
  | number (value : Json.Number)
  /-- A text. -/
  | string (value : String)
  /-- A list of values. -/
  | array (items : List Json)
  /-- A map from names to values, in name order. -/
  | object (members : List (String × Json))
  deriving Repr, Inhabited

namespace Json

/-- A document as written. -/
inductive Tree where
  /-- The word `null`. -/
  | null
  /-- The word `true` or `false`. -/
  | bool (value : Bool)
  /-- A number that has a value. -/
  | number (value : Number)
  /-- A text that has a value. -/
  | string (value : String)
  /-- Items between brackets. -/
  | array (items : List Tree)
  /-- Members between braces, in the order of the text; a name may have no value. -/
  | object (members : List (Option String × Tree))
  /-- Well written, but without a value. -/
  | meaningless
  deriving Inhabited

mutual

/-- Whether two values are the same. -/
def beq : Json → Json → Bool
  | .null, .null => true
  | .bool a, .bool b => a == b
  | .number a, .number b => a == b
  | .string a, .string b => a == b
  | .array as, .array bs => beqItems as bs
  | .object as, .object bs => beqMembers as bs
  | _, _ => false

/-- Whether two lists of items are the same. -/
def beqItems : List Json → List Json → Bool
  | [], [] => true
  | a :: as, b :: bs => beq a b && beqItems as bs
  | _, _ => false

/-- Whether two lists of members are the same. -/
def beqMembers : List (String × Json) → List (String × Json) → Bool
  | [], [] => true
  | (k, a) :: as, (l, b) :: bs => k == l && beq a b && beqMembers as bs
  | _, _ => false

end

mutual

theorem eq_of_beq : ∀ {a b : Json}, beq a b = true → a = b
  | .null, .null, _ => rfl
  | .bool _, .bool _, h => by simpa [beq] using h
  | .number _, .number _, h => by simpa [beq] using h
  | .string _, .string _, h => by simpa [beq] using h
  | .array _, .array _, h => congrArg Json.array (eq_of_beqItems (by simpa [beq] using h))
  | .object _, .object _, h => congrArg Json.object (eq_of_beqMembers (by simpa [beq] using h))
  | .null, .bool _, h | .null, .number _, h | .null, .string _, h | .null, .array _, h
  | .null, .object _, h | .bool _, .null, h | .bool _, .number _, h | .bool _, .string _, h
  | .bool _, .array _, h | .bool _, .object _, h | .number _, .null, h | .number _, .bool _, h
  | .number _, .string _, h | .number _, .array _, h | .number _, .object _, h
  | .string _, .null, h | .string _, .bool _, h | .string _, .number _, h | .string _, .array _, h
  | .string _, .object _, h | .array _, .null, h | .array _, .bool _, h | .array _, .number _, h
  | .array _, .string _, h | .array _, .object _, h | .object _, .null, h | .object _, .bool _, h
  | .object _, .number _, h | .object _, .string _, h | .object _, .array _, h => by
    simp [beq] at h

theorem eq_of_beqItems : ∀ {as bs : List Json}, beqItems as bs = true → as = bs
  | [], [], _ => rfl
  | _ :: _, _ :: _, h => by
    simp only [beqItems, Bool.and_eq_true] at h
    rw [eq_of_beq h.1, eq_of_beqItems h.2]
  | [], _ :: _, h | _ :: _, [], h => by simp [beqItems] at h

theorem eq_of_beqMembers :
    ∀ {as bs : List (String × Json)}, beqMembers as bs = true → as = bs
  | [], [], _ => rfl
  | (_, _) :: _, (_, _) :: _, h => by
    simp only [beqMembers, Bool.and_eq_true, beq_iff_eq] at h
    rw [h.1.1, eq_of_beq h.1.2, eq_of_beqMembers h.2]
  | [], _ :: _, h | _ :: _, [], h => by simp [beqMembers] at h

end

mutual

theorem beq_refl : ∀ a : Json, beq a a = true
  | .null => rfl
  | .bool _ | .number _ | .string _ => by simp [beq]
  | .array as => by simpa [beq] using beqItems_refl as
  | .object as => by simpa [beq] using beqMembers_refl as

theorem beqItems_refl : ∀ as : List Json, beqItems as as = true
  | [] => rfl
  | a :: as => by simp [beqItems, beq_refl a, beqItems_refl as]

theorem beqMembers_refl : ∀ as : List (String × Json), beqMembers as as = true
  | [] => rfl
  | (_, a) :: as => by simp [beqMembers, beq_refl a, beqMembers_refl as]

end

instance : DecidableEq Json := fun a b =>
  decidable_of_iff (beq a b = true) ⟨eq_of_beq, fun h => h ▸ beq_refl a⟩

mutual

/-- Whether every object in a value has its names in ascending order, each once. -/
def Canonical : Json → Prop
  | .array items => CanonicalItems items
  | .object members => Ascending members ∧ CanonicalMembers members
  | _ => True

/-- `Canonical` for every item. -/
def CanonicalItems : List Json → Prop
  | [] => True
  | a :: as => Canonical a ∧ CanonicalItems as

/-- `Canonical` for every member. -/
def CanonicalMembers : List (String × Json) → Prop
  | [] => True
  | (_, a) :: as => Canonical a ∧ CanonicalMembers as

end

mutual

/-- The tree that writes a value. -/
def tree : Json → Tree
  | .null => .null
  | .bool b => .bool b
  | .number n => .number n
  | .string s => .string s
  | .array items => .array (treeItems items)
  | .object members => .object (treeMembers members)

/-- The trees of items. -/
def treeItems : List Json → List Tree
  | [] => []
  | a :: as => tree a :: treeItems as

/-- The trees of members. -/
def treeMembers : List (String × Json) → List (Option String × Tree)
  | [] => []
  | (k, a) :: as => (some k, tree a) :: treeMembers as

end

namespace Tree

mutual

/-- The value of a tree, when every leaf has one; of two members with one name the last stays. -/
def value? : Tree → Option Json
  | .null => some .null
  | .bool b => some (.bool b)
  | .number n => some (.number n)
  | .string s => some (.string s)
  | .array items => (valueItems items).map .array
  | .object members => (valueMembers members []).map .object
  | .meaningless => none

/-- The values of items. -/
def valueItems : List Tree → Option (List Json)
  | [] => some []
  | t :: ts => do
    let a ← value? t
    let as ← valueItems ts
    return a :: as

/-- The values of members, put into the entries `done`. -/
def valueMembers :
    List (Option String × Tree) → List (String × Json) → Option (List (String × Json))
  | [], done => some done
  | (name, t) :: ts, done => do
    let name ← name
    let a ← value? t
    valueMembers ts (Entries.insert name a done)

end

end Tree

/-- The member of an object with this name. -/
def get? (j : Json) (name : String) : Option Json :=
  match j with
  | .object members => Entries.find? name members
  | _ => none

/-- An object made of the given members; of two with one name the last stays. -/
def ofMembers (members : List (String × Json)) : Json :=
  .object (Dict.ofList members).entries

/-- A natural number as a document. -/
def ofNat (n : Nat) : Json := .number (.int n)

/-- An optional value, `null` for none. -/
def ofOption {α : Type} (f : α → Json) : Option α → Json
  | none => .null
  | some a => f a

end Json

end RegistryProxy
