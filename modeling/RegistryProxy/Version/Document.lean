import RegistryProxy.Json.Fields
import RegistryProxy.Version.Basic

/-!
# Version/Document — versions as documents

A version in a document is taken as it is: its prerelease and build metadata may be any texts.
-/

namespace RegistryProxy.Version

/-- A number of 64 bits. -/
def word? (t : Json.Tree) : Option Nat := (t.integer? 0 0xffffffffffffffff).map Int.toNat

/-- Reads a version. -/
def ofTree? (t : Json.Tree) : Option Version := do
  let (field, _) ← t.split? ["major", "minor", "patch", "prerelease", "build"]
  let major ← Json.Tree.required word? (field "major")
  let minor ← Json.Tree.required word? (field "minor")
  let patch ← Json.Tree.required word? (field "patch")
  let prerelease ← Json.Tree.optional Json.Tree.text? (field "prerelease")
  let build ← Json.Tree.optional Json.Tree.text? (field "build")
  return { major, minor, patch, prerelease, build }

end RegistryProxy.Version
