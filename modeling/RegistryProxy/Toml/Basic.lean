import RegistryProxy.Json.Basic
import RegistryProxy.Toml.Cursor
import RegistryProxy.Toml.Scalar

/-!
# Toml/Basic — tables that remember how they were written

A `Node` is a value with the place where it stands.  Tables remember how they came about, because
that decides what may still be put into them, and keep their entries in the order in which they were
defined.  `Node.tree` is the same as a document without places.
-/

namespace RegistryProxy.Toml

/-- How a table came about. -/
inductive Origin where
  /-- It stands between braces; nothing is added to it. -/
  | closed
  /-- A dotted key leads through it. -/
  | dotted
  /-- The header of a table inside it names it. -/
  | implied
  /-- It has a header of its own, or is the whole text. -/
  | headed
  deriving DecidableEq, Repr

/-- A value and where it stands. -/
inductive Node where
  /-- A value in one piece. -/
  | leaf (place : Place) (value : Scalar)
  /-- Items between brackets. -/
  | list (place : Place) (items : List Node)
  /-- Tables under one header that is repeated, each with its place. -/
  | tables (place : Place) (items : List (Place × List (String × Node)))
  /-- A table.  Without a header or braces it stands where its key does. -/
  | table (place : Place) (origin : Origin) (entries : List (String × Node))

/-- What a table holds, in the order of definition. -/
abbrev Entries := List (String × Node)

namespace Node

/-- Where a value stands. -/
def place : Node → Place
  | .leaf p _ | .list p _ | .tables p _ | .table p _ _ => p

/-- The key under which a moment shows when it is asked for entries. -/
def momentKey : String := "$__toml_private_datetime"

/-- A value in one piece as a document. -/
def ofScalar : Scalar → Json.Tree
  | .text s => .string s
  | .integer n => .number (.int n)
  | .real x => .number (.real x)
  | .truth b => .bool b
  | .moment text => .object [(some momentKey, .string text)]

mutual

/-- A value as a document. -/
def tree : Node → Json.Tree
  | .leaf _ value => ofScalar value
  | .list _ items => .array (treeItems items)
  | .tables _ items => .array (treeTables items)
  | .table _ _ entries => .object (treeEntries entries)

/-- Items as documents. -/
def treeItems : List Node → List Json.Tree
  | [] => []
  | n :: ns => tree n :: treeItems ns

/-- Tables under one header as documents. -/
def treeTables : List (Place × List (String × Node)) → List Json.Tree
  | [] => []
  | (_, entries) :: rest => .object (treeEntries entries) :: treeTables rest

/-- Entries as members of a document. -/
def treeEntries : List (String × Node) → List (Option String × Json.Tree)
  | [] => []
  | (k, n) :: rest => (some k, tree n) :: treeEntries rest

end

/-- The tables under one header as values. -/
def ofTables (items : List (Place × Entries)) : List Node :=
  items.map fun t => .table t.1 .headed t.2

end Node

end RegistryProxy.Toml
