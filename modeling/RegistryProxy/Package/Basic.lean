import RegistryProxy.Json.Basic

/-!
# Package/Basic — the registry document of one package

A `Package` holds the manifest of every published version, the tags that point at versions, the
readme, the attached tarballs and the marks that uplinks left.  Members that nothing here interprets
are carried along.
-/

namespace RegistryProxy

/-- The manifest of one version. -/
structure Manifest where
  /-- The version it describes. -/
  version : String
  /-- All other members. -/
  attributes : Dict Json := ∅
  deriving DecidableEq

/-- What is known of an attached tarball. -/
structure Attachment where
  /-- Its checksum. -/
  shasum : Option String := none
  /-- The version it belongs to. -/
  version : Option String := none
  /-- All other members. -/
  other : Dict Json := ∅
  deriving DecidableEq

/-- When a document was last fetched from an uplink. -/
structure Mark where
  /-- The tag the uplink gave the document. -/
  etag : Option String := none
  /-- Milliseconds since 1970. -/
  fetched : Int
  deriving DecidableEq

/-- The registry document of one package. -/
structure Package where
  /-- The name of the package. -/
  name : String
  /-- The manifests by version. -/
  versions : Dict Manifest := ∅
  /-- The version each tag points at. -/
  tags : Dict String := ∅
  /-- The readme of the latest version. -/
  readme : Option String := none
  /-- The tarballs by file name. -/
  attachments : Dict Attachment := ∅
  /-- The last fetch from each uplink. -/
  marks : Dict Mark := ∅
  /-- All other members. -/
  other : Dict Json := ∅
  deriving DecidableEq

namespace Package

/-- The tag that a request without a version means. -/
def latestName : String := "latest"

/-- Adds a manifest that holds nothing but its version. -/
def withVersion (p : Package) (version : String) : Package :=
  { p with versions := p.versions.insert version { version } }

/-- Points a tag at a version. -/
def withTag (p : Package) (tag version : String) : Package :=
  { p with tags := p.tags.insert tag version }

/-- The version that `latest` points at. -/
def latestTag (p : Package) : Option String := p.tags.find? latestName

/-- The tags that point at no known version, with what they point at, in order. -/
def danglingTags (p : Package) : List (String × String) :=
  p.tags.entries.filter fun t => !p.versions.contains t.2

end Package

end RegistryProxy
