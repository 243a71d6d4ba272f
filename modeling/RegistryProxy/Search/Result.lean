import RegistryProxy.Json.Fields
import RegistryProxy.Json.Parser

/-!
# Search/Result — what a search finds

A `SearchResult` is a summary of a package with its scores.  Members that nothing here interprets
are carried along.
-/

namespace RegistryProxy

/-- The summary of a package. -/
structure PackageSummary where
  /-- The name of the package. -/
  name : String
  /-- The version that was found. -/
  version : Option String := none
  /-- What the package says about itself. -/
  description : Option String := none
  /-- All other members. -/
  other : Dict Json := ∅
  deriving DecidableEq

/-- One result of a search. -/
structure SearchResult where
  /-- The package that was found. -/
  package : PackageSummary
  /-- How it scored, in detail. -/
  score : Option Json := none
  /-- How it scored, in one number. -/
  searchScore : Option Binary64 := none
  /-- All other members. -/
  other : Dict Json := ∅
  deriving DecidableEq

namespace PackageSummary

/-- Reads a summary. -/
def ofTree? (t : Json.Tree) : Option PackageSummary := do
  let (field, rest) ← t.split? ["name", "version", "description"]
  let name ← Json.Tree.required Json.Tree.text? (field "name")
  let version ← Json.Tree.optional Json.Tree.text? (field "version")
  let description ← Json.Tree.optional Json.Tree.text? (field "description")
  let other ← Json.Tree.rest? rest
  return { name, version, description, other }

/-- The summary as a document. -/
def document (p : PackageSummary) : Json :=
  .ofMembers ([("name", .string p.name)] ++
    (p.version.map fun v => ("version", .string v)).toList ++
    (p.description.map fun d => ("description", .string d)).toList ++ p.other.entries)

end PackageSummary

namespace SearchResult

/-- Reads a result. -/
def ofTree? (t : Json.Tree) : Option SearchResult := do
  let (field, rest) ← t.split? ["package", "score", "searchScore"]
  let package ← Json.Tree.required PackageSummary.ofTree? (field "package")
  let score ← Json.Tree.optional Json.Tree.value? (field "score")
  let searchScore ← Json.Tree.optional Json.Tree.double? (field "searchScore")
  let other ← Json.Tree.rest? rest
  return { package, score, searchScore, other }

/-- The result in a text. -/
def decode (text : Bytes) : Option SearchResult := Json.Tree.read Json.maxDepth text >>= ofTree?

/-- The result as a document. -/
def document (r : SearchResult) : Json :=
  .ofMembers ([("package", r.package.document)] ++
    (r.score.map fun s => ("score", s)).toList ++
    (r.searchScore.map fun x => ("searchScore", .number (.real x))).toList ++ r.other.entries)

end SearchResult

end RegistryProxy
