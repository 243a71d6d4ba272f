import RegistryProxy.Package.Basic
import RegistryProxy.Version.Order

/-!
# Package/Merge — taking over what an uplink knows

Versions that are missing here are added and present ones are kept.  A tag moves to the uplink's
version unless the one here is newer, and the readme comes from the uplink whenever `latest` ends up
as the uplink has it.
-/

namespace RegistryProxy.Package

/-- Whether a tag moves from its current version to the offered one: always when it is not set,
else when both are versions and the current one is not the newer. -/
def acceptsTag (current : Option String) (offered : String) : Bool :=
  match current with
  | none => true
  | some current =>
    match Version.parse? current, Version.parse? offered with
    | some here, some there => Version.compare here there != .gt
    | _, _ => false

/-- Adds the versions that are missing. -/
def addVersions (here : Dict Manifest) (there : List (String × Manifest)) : Dict Manifest :=
  there.foldl (fun d e => if d.contains e.1 then d else d.insert e.1 e.2) here

/-- Takes over one tag, and the readme with `latest`. -/
def mergeTag (readme : Option String) (p : Package) (offer : String × String) : Package :=
  let (tag, offered) := offer
  let current := p.tags.find? tag
  let p :=
    if current != some offered && acceptsTag current offered then p.withTag tag offered else p
  if tag = latestName ∧ p.tags.find? tag = some offered then { p with readme } else p

/-- Takes over the tags in the order given. -/
def mergeTags (readme : Option String) (p : Package) (offers : List (String × String)) : Package :=
  offers.foldl (mergeTag readme) p

/-- **Takes over what an uplink knows.** -/
def merge (here there : Package) : Package :=
  mergeTags there.readme
    { here with versions := addVersions here.versions there.versions.entries } there.tags.entries

end RegistryProxy.Package
