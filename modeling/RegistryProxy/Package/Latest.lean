import RegistryProxy.Error
import RegistryProxy.Package.Basic
import RegistryProxy.Version.Order

/-!
# Package/Latest — the version a request without a version means

The `latest` tag is taken at its word.  Without it the lowest version of the package is meant, the
first in the order of `Version.sort`.
-/

namespace RegistryProxy.Package

/-- **The version to serve when none is asked for.** -/
def resolveLatest (p : Package) : Except Error String :=
  if p.versions.isEmpty then .error (.emptyPackage p.name)
  else
    match p.latestTag with
    | some version => .ok version
    | none =>
      match Version.sort p.versions.keys with
      | [] => .error (.emptyPackage p.name)
      | lowest :: _ => .ok lowest

end RegistryProxy.Package
