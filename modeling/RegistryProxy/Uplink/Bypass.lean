import RegistryProxy.Json.Fields
import RegistryProxy.Text.Blank

/-!
# Uplink/Bypass — hosts that are reached without the proxy

A bypass list names host suffixes.  `bypasses` compares host and entry with a point in front of
both, so `example.com` covers itself and `api.example.com` but not `notexample.com`.
-/

namespace RegistryProxy

/-- Hosts to reach directly, as a setting spells them. -/
inductive Bypass where
  /-- One host suffix for each item. -/
  | list (items : List String)
  /-- Host suffixes separated by commas. -/
  | joined (text : String)
  deriving DecidableEq

namespace Bypass

/-- Reads a setting: a list of texts, or a text. -/
def ofTree? (t : Json.Tree) : Option Bypass :=
  match t.listOf? Json.Tree.text? with
  | some items => some (.list items)
  | none => t.text?.map .joined

/-- The setting as a document. -/
def document : Bypass → Json
  | .list items => .array (items.map .string)
  | .joined text => .string text

/-- The items as they are spelled. -/
def spelled : Bypass → List String
  | .list items => items
  | .joined text => (Text.splitAt ',' text.toList).map String.ofList

/-- **The host suffixes**, without the blanks around them; empty ones are left out. -/
def entries (b : Bypass) : List String :=
  (b.spelled.map Text.trimmed).filter fun entry => !entry.isEmpty

end Bypass

/-- A name in lower case with a point in front, added if there is none. -/
def dotted (name : String) : List Char :=
  match (Text.lower name).toList with
  | '.' :: cs => '.' :: cs
  | cs => '.' :: cs

/-- Whether an entry covers a host. -/
def covers (host entry : String) : Bool :=
  let entry := Text.trimmed entry
  !entry.isEmpty && (dotted entry).isSuffixOf (dotted host)

/-- **Whether a host is reached without the proxy.** -/
def bypasses (host : String) (entries : List String) : Bool := entries.any (covers host)

end RegistryProxy
