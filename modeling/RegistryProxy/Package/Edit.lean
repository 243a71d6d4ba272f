import RegistryProxy.Error
import RegistryProxy.Package.Merge

/-!
# Package/Edit — changes of a package, one at a time

An `Edit` changes one part of a package or refuses.  `Edit.applyAll` goes through edits in order and
stops at the first that refuses.
-/

namespace RegistryProxy

/-- A change of a package. -/
inductive Edit where
  /-- Points a tag at a version. -/
  | setTag (tag version : String)
  /-- Removes a tag. -/
  | removeTag (tag : String)
  /-- Adds a manifest that holds nothing but its version. -/
  | addVersion (version : String)
  /-- Removes a manifest. -/
  | removeVersion (version : String)
  /-- Sets or removes the readme. -/
  | setReadme (text : Option String)
  /-- Sets a carried member. -/
  | setOther (name : String) (value : Json)
  /-- Sets a carried member of a manifest, if there is one for the version. -/
  | setAttribute (version name : String) (value : Json)
  /-- Attaches a tarball. -/
  | attach (file : String) (attachment : Attachment)
  /-- Sets the name. -/
  | rename (name : String)
  /-- Takes over what an uplink knows. -/
  | merge (there : Package)
  /-- Refuses. -/
  | refuse (e : Error)

namespace Edit

/-- **Changes a package.** -/
def apply : Edit → Package → Except Error Package
  | .setTag tag version, p => .ok (p.withTag tag version)
  | .removeTag tag, p => .ok { p with tags := p.tags.erase tag }
  | .addVersion version, p => .ok (p.withVersion version)
  | .removeVersion version, p => .ok { p with versions := p.versions.erase version }
  | .setReadme readme, p => .ok { p with readme }
  | .setOther name value, p => .ok { p with other := p.other.insert name value }
  | .setAttribute version name value, p =>
    match p.versions.find? version with
    | none => .ok p
    | some m =>
      let m := { m with attributes := m.attributes.insert name value }
      .ok { p with versions := p.versions.insert version m }
  | .attach file a, p => .ok { p with attachments := p.attachments.insert file a }
  | .rename name, p => .ok { p with name }
  | .merge there, p => .ok (p.merge there)
  | .refuse e, _ => .error e

/-- Changes a package by one edit after the other. -/
def applyAll (edits : List Edit) (p : Package) : Except Error Package :=
  edits.foldlM (fun p e => e.apply p) p

end Edit

end RegistryProxy
