import RegistryProxy.Toml.Basic

/-!
# Toml/Table — putting a text together from its statements

A text is a list of statements: headers and entries.  `Statement.apply` puts one into the tables so
far, or refuses it because its key is taken.  A header moves a table that was only implied behind
all entries next to it; tables between braces are closed.
-/

namespace RegistryProxy.Toml

/-- A simple key and where it stands. -/
structure Key where
  /-- The key without its quotes. -/
  name : String
  /-- Where it stands. -/
  place : Place
  deriving DecidableEq

/-- A statement.  A path is one simple key at least: the last one stands alone. -/
inductive Statement where
  /-- The header of a table. -/
  | header (place : Place) (path : List Key) (key : Key)
  /-- The header of one more table of a list. -/
  | repeated (place : Place) (path : List Key) (key : Key)
  /-- An entry. -/
  | entry (path : List Key) (key : Key) (value : Node)

namespace Entries

/-- The value under a key. -/
def find? (name : String) (es : Entries) : Option Node := es.lookup name

/-- Puts another value under a key that is there. -/
def replace (name : String) (n : Node) : Entries → Entries
  | [] => []
  | (k, m) :: es => if k = name then (k, n) :: es else (k, m) :: replace name n es

/-- Takes a key away. -/
def erase (name : String) (es : Entries) : Entries := es.filter fun e => e.1 != name

/-- What is done to the table at the end of a path. -/
abbrev Change := Origin → Entries → Option Entries

/-- **Changes the table at the end of a path.**  Tables that are missing on the way are made; `way`
tells whether a dotted key or a header leads there. -/
def alter (way : Origin) (change : Change) (origin : Origin) : List Key → Entries → Option Entries
  | [], es => change origin es
  | k :: ks, es =>
    match find? k.name es with
    | none => do
      let inner ← alter way change way ks []
      return es ++ [(k.name, .table k.place way inner)]
    | some (.table place origin inner) =>
      if origin = .closed ∨ (way = .dotted ∧ origin = .headed) then none
      else do
        let inner ← alter way change origin ks inner
        return replace k.name (.table place origin inner) es
    | some (.tables place items) =>
      match items.reverse with
      | [] => none
      | (last, inner) :: earlier => do
        let inner ← alter way change .headed ks inner
        return replace k.name (.tables place ((last, inner) :: earlier).reverse) es
    | some _ => none

/-- Opens the table of a header. -/
def openTable (place : Place) (key : Key) : Change := fun _ es =>
  match find? key.name es with
  | none => some (es ++ [(key.name, .table place .headed [])])
  | some (.table _ .implied inner) =>
    some (erase key.name es ++ [(key.name, .table place .headed inner)])
  | some _ => none

/-- Opens one more table of a list. -/
def openNext (place : Place) (key : Key) : Change := fun _ es =>
  match find? key.name es with
  | none => some (es ++ [(key.name, .tables place [(place, [])])])
  | some (.tables start items) =>
    some (replace key.name (.tables start (items ++ [(place, [])])) es)
  | some _ => none

/-- Puts an entry behind the others; `path` is what stands in front of its key.  A dotted key ends
in a table that only dotted keys have made. -/
def put (path : List Key) (key : Key) (value : Node) : Change := fun origin es =>
  if (origin = .dotted) = !path.isEmpty ∧ (find? key.name es).isNone then
    some (es ++ [(key.name, value)])
  else none

/-- Puts an entry with a dotted key into a table. -/
def putDotted (path : List Key) (key : Key) (value : Node) (origin : Origin) (es : Entries) :
    Option Entries := alter .dotted (put path key value) origin path es

end Entries

/-- The tables so far, and the path of the table that entries go into. -/
structure Draft where
  /-- All that was defined. -/
  entries : Entries := []
  /-- The header that was read last. -/
  current : List Key := []

namespace Statement

/-- Where a statement starts. -/
def place : Statement → Place
  | .header p _ _ | .repeated p _ _ => p
  | .entry [] key _ => key.place
  | .entry (first :: _) _ _ => first.place

/-- **Puts a statement into the tables**, unless its key is taken. -/
def put? (d : Draft) : Statement → Option Draft
  | .header place path key => do
    let entries ← Entries.alter .implied (Entries.openTable place key) .headed path d.entries
    return { entries, current := path ++ [key] }
  | .repeated place path key => do
    let entries ← Entries.alter .implied (Entries.openNext place key) .headed path d.entries
    return { entries, current := path ++ [key] }
  | .entry path key value => do
    let change : Entries.Change := fun _ es => Entries.putDotted path key value .headed es
    let entries ← Entries.alter .implied change .headed d.current d.entries
    return { d with entries }

/-- Puts a statement into the tables, or tells that its key is taken. -/
def apply (d : Draft) (s : Statement) : Except Fault Draft :=
  match s.put? d with
  | some d => .ok d
  | none => .error { cause := .duplicate, place := s.place }

end Statement

end RegistryProxy.Toml
