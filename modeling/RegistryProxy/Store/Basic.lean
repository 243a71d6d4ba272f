import RegistryProxy.Error
import RegistryProxy.Package.Document
import RegistryProxy.Store.Locks
import RegistryProxy.Transfer.Upload

/-!
# Store/Basic — packages and tarballs in memory

Packages are kept as their texts, so every read decodes what was written.  A tarball is either there
as a whole, or on its way in behind an `Intake`, which has claimed its name.
-/

namespace RegistryProxy

/-- The texts of packages by name. -/
abbrev Documents := Dict Bytes

namespace Documents

/-- The error for a package whose text cannot be read. -/
def unreadable (name : String) : Error :=
  .internal ("failed to parse package '" ++ name ++ "'") (.outside none)

/-- Stores a package. -/
def save (d : Documents) (name : String) (p : Package) : Documents := d.insert name p.encode

/-- Stores a package under a name that has none. -/
def create (d : Documents) (name : String) (p : Package) : Except Error Documents :=
  if d.contains name then .error (.conflict name) else .ok (d.save name p)

/-- **The package under a name.** -/
def read (d : Documents) (name : String) : Except Error Package :=
  match d.find? name with
  | none => .error (.notFound name)
  | some text =>
    match Package.decode text with
    | some p => .ok p
    | none => .error (unreadable name)

/-- Packages under their own names; of two with one name the last stays. -/
def ofPackages (packages : List Package) : Documents :=
  packages.foldl (fun d p => d.save p.name p) ∅

end Documents

/-- What an intake does next. -/
inductive Intake.Stage where
  /-- Receives from the upload. -/
  | receiving
  /-- Puts the tarball into the store. -/
  | storing
  /-- Gives its name free. -/
  | releasing (report : Report)
  /-- Reports to the writer. -/
  | reporting (report : Report)
  /-- Nothing. -/
  | over

/-- A tarball on its way into the store. -/
structure Intake where
  /-- The name it has claimed. -/
  name : String
  /-- The upload it receives from. -/
  upload : Upload := .ofCapacity Upload.storeCapacity
  /-- What it received. -/
  buffer : Bytes := []
  /-- What it does next. -/
  stage : Intake.Stage := .receiving

/-- Packages and tarballs in memory. -/
structure Store where
  /-- The texts of packages. -/
  packages : Documents := ∅
  /-- The tarballs. -/
  tarballs : Dict Bytes := ∅
  /-- The names of tarballs on their way in. -/
  claimed : List String := []
  /-- The tarballs on their way in, and those that have ended. -/
  intakes : List Intake := []
  /-- The locks for updates. -/
  locks : Locks := {}

namespace Store

/-- A store that holds packages and tarballs. -/
def ofData (packages : List Package) (tarballs : List (String × Bytes)) : Store :=
  { packages := .ofPackages packages, tarballs := .ofList tarballs }

/-- Whether a tarball is there as a whole. -/
def hasTarball (s : Store) (name : String) : Bool := s.tarballs.contains name

end Store

end RegistryProxy
