import RegistryProxy.Json.Fields
import RegistryProxy.Json.Parser
import RegistryProxy.Json.Printer
import RegistryProxy.Package.Basic

/-!
# Package/Document — packages as documents

`Package.ofTree?` reads a package from a document and `Package.written` writes one.  What is written
lists the known members first and the carried ones after them, so a carried member with the name of
a known one makes a text that cannot be read again; `Package.document` is the value of what is
written.
-/

namespace RegistryProxy

/-- The member that is there when the value is. -/
def memberOf (name : String) : Option String → List (String × Json)
  | none => []
  | some s => [(name, .string s)]

namespace Manifest

/-- Reads a manifest. -/
def ofTree? (t : Json.Tree) : Option Manifest := do
  let (field, rest) ← t.split? ["version"]
  let version ← Json.Tree.required Json.Tree.text? (field "version")
  let attributes ← Json.Tree.rest? rest
  return { version, attributes }

/-- The members of a manifest. -/
def members (m : Manifest) : List (String × Json) :=
  ("version", .string m.version) :: m.attributes.entries

end Manifest

namespace Attachment

/-- Reads an attachment. -/
def ofTree? (t : Json.Tree) : Option Attachment := do
  let (field, rest) ← t.split? ["shasum", "version"]
  let shasum ← Json.Tree.optional Json.Tree.text? (field "shasum")
  let version ← Json.Tree.optional Json.Tree.text? (field "version")
  let other ← Json.Tree.rest? rest
  return { shasum, version, other }

/-- The members of an attachment. -/
def members (a : Attachment) : List (String × Json) :=
  memberOf "shasum" a.shasum ++ memberOf "version" a.version ++ a.other.entries

end Attachment

namespace Mark

/-- Reads a mark. -/
def ofTree? (t : Json.Tree) : Option Mark := do
  let field ← t.fields? ["etag", "fetched"]
  let etag ← Json.Tree.optional Json.Tree.text? (field "etag")
  let fetched ← Json.Tree.required
    (Json.Tree.integer? (-0x8000000000000000) 0x7fffffffffffffff) (field "fetched")
  return { etag, fetched }

/-- The members of a mark. -/
def members (m : Mark) : List (String × Json) :=
  memberOf "etag" m.etag ++ [("fetched", .number (.int m.fetched))]

end Mark

namespace Package

/-- The names of the members that a package interprets. -/
def knownNames : List String :=
  ["name", "versions", "dist-tags", "readme", "_attachments", "_uplinks"]

/-- **Reads a package.** -/
def ofTree? (t : Json.Tree) : Option Package := do
  let (field, rest) ← t.split? knownNames
  let name ← Json.Tree.required Json.Tree.text? (field "name")
  let versions ← Json.Tree.orElse ∅ (Json.Tree.mapOf? Manifest.ofTree?) (field "versions")
  let tags ← Json.Tree.orElse ∅ (Json.Tree.mapOf? Json.Tree.text?) (field "dist-tags")
  let readme ← Json.Tree.optional Json.Tree.text? (field "readme")
  let attachments ←
    Json.Tree.orElse ∅ (Json.Tree.mapOf? Attachment.ofTree?) (field "_attachments")
  let marks ← Json.Tree.orElse ∅ (Json.Tree.mapOf? Mark.ofTree?) (field "_uplinks")
  let other ← Json.Tree.rest? rest
  return { name, versions, tags, readme, attachments, marks, other }

/-- An object with one entry for each entry of a map. -/
def writtenMap {α : Type} (members : α → List (String × Json)) (d : Dict α) : Json :=
  .object (d.entries.map fun e => (e.1, .object (members e.2)))

/-- The members of a package, known ones first. -/
def members (p : Package) : List (String × Json) :=
  [("name", .string p.name),
    ("versions", writtenMap Manifest.members p.versions),
    ("dist-tags", .object (p.tags.entries.map fun t => (t.1, .string t.2)))] ++
  memberOf "readme" p.readme ++
  [("_attachments", writtenMap Attachment.members p.attachments)] ++
  (if p.marks.isEmpty then [] else [("_uplinks", writtenMap Mark.members p.marks)]) ++
  p.other.entries

/-- The package as it is written, member by member. -/
def written (p : Package) : Json := .object p.members

/-- **The package as a value**: of two members with one name the last stays. -/
def document (p : Package) : Json := p.written.tree.value?.getD .null

/-- The text of a package. -/
def encode (p : Package) : Bytes := Json.write p.written

/-- The package a text holds. -/
def decode (text : Bytes) : Option Package := Json.Tree.read Json.maxDepth text >>= ofTree?

/-- The package a document holds. -/
def ofJson? (j : Json) : Option Package := ofTree? j.tree

end Package

end RegistryProxy
