import RegistryProxy.Url.Parser

/-!
# Client/Proxy — proxies that can be used

A proxy is an address with a host, for which `http://` may be left out.
-/

namespace RegistryProxy

namespace Proxy

/-- Whether a character may stand in the address of a proxy. -/
def isAllowed (c : Char) : Bool := c.isAlphanum || "!$&'()*+,-.:;=[]_~".toList.contains c

/-- Whether an address is that of a proxy. -/
def isUsableUrl (u : Url) : Bool :=
  (u.scheme == "http" || u.scheme == "https") && u.authority.toList.all isAllowed

/-- **Whether a text names a proxy.**  Without a host, or with what looks like a scheme in front of
a number, `http://` is put in front. -/
def isValid (text : String) : Bool :=
  let assumed := (Url.parse ("http://" ++ text)).toOption.any isUsableUrl
  match Url.parse text with
  | .ok u => if u.hasHost then isUsableUrl u else assumed
  | .error .relative => assumed
  | .error _ => false

end Proxy

end RegistryProxy
