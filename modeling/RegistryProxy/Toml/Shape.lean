import RegistryProxy.Json.Fields
import RegistryProxy.Toml.Basic

/-!
# Toml/Shape — what a setting may hold, and the first one that does not

A `Shape` says what a value may be.  `Shape.read` goes through a value in the order in which it was
written and stops at the first part that does not fit; what fits comes out as a document, without
the entries that nobody knows.  Where entries are asked for, a list gives them by position and what
it has too many is dropped; a moment gives one entry with itself as a text.
-/

namespace RegistryProxy.Toml

/-- What a value may be. -/
inductive Shape where
  /-- What `fits` accepts; anything else has a cause. -/
  | single (fits : Json.Tree → Bool) (cause : Cause)
  /-- Any keys, with values of one shape. -/
  | every (item : Shape)
  /-- Keys that are known, in the order of their positions; the first may have to be there. -/
  | fields (firstNeeded : Bool) (known : List (String × Shape))

namespace Shape

/-- The shape of what a reader reads. -/
def ofReader {α : Type} (read : Json.Tree → Option α) (cause : Cause := .unfitting) : Shape :=
  .single (fun t => (read t).isSome) cause

/-- A text. -/
def text : Shape := .ofReader Json.Tree.text?

/-- The entries of a value that is asked for entries. -/
def entriesOf : Node → Except Fault Entries
  | .table _ _ es => .ok es
  | .leaf place (.moment text) => .ok [(Node.momentKey, .leaf place (.text text))]
  | n => .error { cause := .unfitting, place := n.place }

/-- The entries of a value that is asked for known keys. -/
def fieldsOf (known : List (String × Shape)) : Node → Except Fault Entries
  | .list _ items => .ok ((known.map Prod.fst).zip items)
  | .tables _ items => .ok ((known.map Prod.fst).zip (Node.ofTables items))
  | n => entriesOf n

/-- Reads entries one after the other with a reader for each key; what has none is left out. -/
def readEntries (reader : String → Option (Node → Except Fault Json.Tree)) :
    Entries → Except Fault (List (Option String × Json.Tree))
  | [] => .ok []
  | (k, n) :: es =>
    match reader k with
    | none => readEntries reader es
    | some read => do
      let t ← read n
      let ts ← readEntries reader es
      return (some k, t) :: ts

/-- Whether the values come from a list, whose entries have no names. -/
def isList : Node → Bool
  | .list _ _ | .tables _ _ => true
  | _ => false

/-- Refuses entries without the key that has to be there. -/
def checkNeeded (needed : Option String) (n : Node) (es : List (Option String × Json.Tree)) :
    Except Fault Unit :=
  match needed with
  | none => .ok ()
  | some key =>
    if es.any fun e => e.1 == some key then .ok ()
    else .error { cause := if isList n then .unfitting else .missing key, place := n.place }

mutual

/-- **The value as a document**, or the first fault in it. -/
def read : Shape → Node → Except Fault Json.Tree
  | .single fits cause, n =>
    if fits n.tree then .ok n.tree else .error { cause, place := n.place }
  | .every item, n => do
    let es ← entriesOf n
    return .object (← readEntries (fun _ => some (read item)) es)
  | .fields firstNeeded known, n => do
    let es ← fieldsOf known n
    let ts ← readEntries (readers known) es
    checkNeeded (if firstNeeded then known.head?.map Prod.fst else none) n ts
    return .object ts

/-- The readers for known keys. -/
def readers : List (String × Shape) → String → Option (Node → Except Fault Json.Tree)
  | [], _ => none
  | (k, s) :: known, name => if k = name then some (read s) else readers known name

end

end Shape

end RegistryProxy.Toml
