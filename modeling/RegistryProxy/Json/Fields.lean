import RegistryProxy.Json.Basic

/-!
# Json/Fields — structures in documents

A structure takes its fields from the members of an object.  A field may occur once only; what the
structure does not know is either passed over unread (`Tree.fields?`) or kept (`Tree.split?`).  A
structure that passes over also takes its fields from the items of an array, by position.
-/

namespace RegistryProxy.Json.Tree

/-- A text. -/
def text? : Tree → Option String
  | .string s => some s
  | _ => none

/-- A truth value. -/
def truth? : Tree → Option Bool
  | .bool b => some b
  | _ => none

/-- An integer between two bounds. -/
def integer? (low high : Int) : Tree → Option Int
  | .number (.int n) => if low ≤ n ∧ n ≤ high then some n else none
  | _ => none

/-- Any number, as a double. -/
def double? : Tree → Option Binary64
  | .number (.int n) => some (.ofInt n)
  | .number (.real x) => some x
  | _ => none

/-- Each item of an array. -/
def listOf? {α : Type} (item : Tree → Option α) : Tree → Option (List α)
  | .array items => items.mapM item
  | _ => none

/-- The entries of an object, put in one after the other. -/
def entriesOf? {α : Type} (item : Tree → Option α) :
    List (Option String × Tree) → Option (List (String × α))
  | [] => some []
  | (name, t) :: rest => do
    let name ← name
    let a ← item t
    let rest ← entriesOf? item rest
    return (name, a) :: rest

/-- A map from the members of an object; of two with one name the last stays. -/
def mapOf? {α : Type} (item : Tree → Option α) : Tree → Option (Dict α)
  | .object members => (entriesOf? item members).map Dict.ofList
  | _ => none

/-- A field that may be missing, or be there as `null`. -/
def optional {α : Type} (item : Tree → Option α) : Option Tree → Option (Option α)
  | none | some .null => some none
  | some t => (item t).map some

/-- A field that has a value of its own when it is missing. -/
def orElse {α : Type} (missing : α) (item : Tree → Option α) : Option Tree → Option α
  | none => some missing
  | some t => item t

/-- A field that must be there. -/
def required {α : Type} (item : Tree → Option α) : Option Tree → Option α
  | none => none
  | some t => item t

/-- The names of all members; none if one has no value. -/
def names? (members : List (Option String × Tree)) : Option (List String) :=
  members.mapM Prod.fst

/-- The tree under a name. -/
def member? (name : String) (members : List (Option String × Tree)) : Option Tree :=
  (members.find? fun m => m.1 == some name).map Prod.snd

/-- Whether no name of `known` occurs twice. -/
def knownOnce (known names : List String) : Bool :=
  known.all fun k => names.count k ≤ 1

/-- The trees of the known fields, and the members that are not known. -/
def split? (known : List String) : Tree →
    Option ((String → Option Tree) × List (Option String × Tree))
  | .object members => do
    let names ← names? members
    guard (knownOnce known names)
    return (fun name => member? name members,
      members.filter fun m => !(known.any fun k => m.1 == some k))
  | _ => none

/-- The trees of the known fields, from an object by name or from an array by position. -/
def fields? (known : List String) : Tree → Option (String → Option Tree)
  | .array items =>
    if items.length ≤ known.length then some fun name => (known.zip items).lookup name else none
  | t => (split? known t).map Prod.fst

/-- The map of members that no field took. -/
def rest? (members : List (Option String × Tree)) : Option (Dict Json) :=
  (entriesOf? value? members).map Dict.ofList

end RegistryProxy.Json.Tree
