import RegistryProxy.Url.Basic

/-!
# Url/Parser — reading addresses as browsers do

Blanks around an address, tabs and line ends inside it, any number of slashes before the host, and
backslashes in place of slashes are allowed for the schemes of the web; paths are freed of `.` and
`..`; what has to be escaped is.  The host, then the number behind its colon, is the first thing to
be at fault.
-/

namespace RegistryProxy.Url

/-- How the rest of an address is read. -/
inductive SchemeKind where
  /-- There is a host, and a backslash is a slash. -/
  | web
  /-- There may be a host, and a backslash is a slash. -/
  | file
  /-- There may be a host, and a backslash is nothing special. -/
  | other
  deriving DecidableEq, Repr

/-- How the rest of an address with this scheme is read. -/
def SchemeKind.of (scheme : String) : SchemeKind :=
  if ["http", "https", "ws", "wss", "ftp"].contains scheme then .web
  else if scheme = "file" then .file
  else .other

/-- Whether a backslash is a slash. -/
def SchemeKind.isSpecial (k : SchemeKind) : Bool := k != .other

/-- The number that a scheme uses when none is given. -/
def usualPort (scheme : String) : Option Nat :=
  [("http", 80), ("https", 443), ("ws", 80), ("wss", 443), ("ftp", 21)].lookup scheme

/-! ## What is escaped -/

/-- Whether a byte is visible ASCII or a space, and none of `chars`. -/
def visibleBut (chars : String) (b : UInt8) : Bool :=
  0x20 ≤ b && b ≤ 0x7e && !(Utf8.encode chars).contains b

/-- Whether a byte of a fragment stands for itself. -/
def keepsInFragment : UInt8 → Bool := visibleBut " \"<>`"

/-- Whether a byte of a query stands for itself. -/
def keepsInQuery (k : SchemeKind) : UInt8 → Bool :=
  visibleBut (if k.isSpecial then " \"#<>'" else " \"#<>")

/-- Whether a byte of a path stands for itself. -/
def keepsInPath : UInt8 → Bool := visibleBut " \"<>`#?\x7b\x7d"

/-- Whether a byte of a user or a password stands for itself. -/
def keepsInUser : UInt8 → Bool := visibleBut " \"<>`#?\x7b\x7d/:;=@[\\]^|"

/-- Characters with everything escaped that has to be. -/
def escaped (keeps : UInt8 → Bool) (cs : List Char) : String :=
  String.ofList (Percent.encode keeps (Utf8.encode (String.ofList cs)))

/-! ## The parts -/

/-- Whether a character is a control character or a space. -/
def isEdge (c : Char) : Bool := c.toNat ≤ 0x20

/-- Whether a character is passed over. -/
def isSkipped (c : Char) : Bool := c == '\t' || c == '\n' || c == '\x0d'

/-- The characters of an address that count. -/
def significant (s : String) : List Char :=
  let cs := (s.toList.dropWhile isEdge).reverse.dropWhile isEdge |>.reverse
  cs.filter fun c => !isSkipped c

/-- Whether a character may stand in a scheme. -/
def isSchemeChar (c : Char) : Bool := c.isAlphanum || c == '+' || c == '-' || c == '.'

/-- The scheme in lower case, and what follows its colon. -/
def takeScheme (cs : List Char) : Option (String × List Char) :=
  let name := cs.takeWhile isSchemeChar
  match cs.dropWhile isSchemeChar with
  | ':' :: rest =>
    if name.head?.any Char.isAlpha then some (String.ofList (name.map Char.toLower), rest) else none
  | _ => none

/-- Whether a character ends the part with the host. -/
def endsAuthority (k : SchemeKind) (c : Char) : Bool :=
  c == '/' || c == '?' || c == '#' || (c == '\\' && k.isSpecial)

/-- The user and the password in front of the last at sign, and what follows it. -/
def takeUser (k : SchemeKind) (cs : List Char) :
    Except ParseError ((List Char × List Char) × List Char) :=
  let part := cs.takeWhile fun c => !endsAuthority k c
  let rest := cs.dropWhile fun c => !endsAuthority k c
  let host := (part.reverse.takeWhile (· != '@')).reverse
  if host.length = part.length then .ok (([], []), cs)
  else
    let user := part.take (part.length - host.length - 1)
    if user.isEmpty ∧ host.isEmpty ∧ ¬ rest.isEmpty then .error .emptyHost
    else .ok ((Text.cutAt ':' user).getD (user, []), host ++ rest)

/-- The host in front of its colon and the path, and what follows it. -/
def takeHost (k : SchemeKind) (bracketed : Bool) : List Char → List Char × List Char
  | [] => ([], [])
  | c :: rest =>
    if (c == ':' && !bracketed) || endsAuthority k c then ([], c :: rest)
    else
      let inside := if c == '[' then true else if c == ']' then false else bracketed
      let (host, rest) := takeHost k inside rest
      (c :: host, rest)

/-- The number behind the colon of a host, and what follows it; an empty one counts as none. -/
def takePort (scheme : String) (cs : List Char) : Except ParseError (Option Nat × List Char) :=
  let digits := cs.takeWhile Char.isDigit
  let rest := cs.dropWhile Char.isDigit
  let n := Decimal.digitsValue digits
  if 65535 < n ∨ rest.head?.any (fun c => !("/\\?#".toList.contains c)) then .error .portNumber
  else if digits.isEmpty ∨ usualPort scheme = some n then .ok (none, rest)
  else .ok (some n, rest)

/-- The host, and its number if there is one, and what follows them. -/
def takeAuthority (k : SchemeKind) (scheme : String) (cs : List Char) :
    Except ParseError (Host × Option Nat × List Char) := do
  let (hostChars, rest) := takeHost k false cs
  if k.isSpecial ∧ hostChars.isEmpty then throw .emptyHost
  let host ← if k.isSpecial then Host.parse hostChars else Host.parseOther hostChars
  match rest with
  | ':' :: rest =>
    if hostChars.isEmpty then throw .emptyHost
    let (n, rest) ← takePort scheme rest
    return (host, n, rest)
  | _ => return (host, none, rest)

/-! ## Paths -/

/-- Whether a segment stands for the one it is in. -/
def isSelf (segment : String) : Bool := [".", "%2e"].contains (Text.lower segment)

/-- Whether a segment stands for the one above. -/
def isParent (segment : String) : Bool :=
  ["..", ".%2e", "%2e.", "%2e%2e"].contains (Text.lower segment)

/-- Adds a segment to a path, which is freed of `.` and `..`; the last one leaves an empty segment
behind. -/
def addSegment (done : List String) (segment : String) (last : Bool) : List String :=
  if isParent segment then
    let done := done.dropLast
    if last then done ++ [""] else done
  else if isSelf segment then if last then done ++ [""] else done
  else done ++ [segment]

/-- Adds the segments of a path one after the other. -/
def addSegments (done : List String) : List String → List String
  | [] => done
  | [segment] => addSegment done segment true
  | segment :: rest => addSegments (addSegment done segment false) rest

/-- The segments behind the slash that opens a path. -/
def pathSegments (k : SchemeKind) (cs : List Char) : List String :=
  let cs := cs.map fun c => if c == '\\' && k.isSpecial then '/' else c
  addSegments [] ((Text.splitAt '/' cs).map (escaped keepsInPath))

/-- Whether a character ends the path. -/
def endsPath (c : Char) : Bool := c == '?' || c == '#'

/-- The path behind the host: there always is one for the schemes of the web. -/
def pathOf (k : SchemeKind) (cs : List Char) : Path :=
  match cs with
  | [] => .segments (if k.isSpecial then [""] else [])
  | c :: rest =>
    if c == '/' || (c == '\\' && k.isSpecial) then .segments (pathSegments k rest)
    else .segments (pathSegments k cs)

/-- The query and the fragment of an address. -/
def takeTail (k : SchemeKind) (cs : List Char) : Option String × Option String :=
  let query := match cs with
    | '?' :: rest => some (escaped (keepsInQuery k) (rest.takeWhile (· != '#')))
    | _ => none
  let fragment := match cs.dropWhile (· != '#') with
    | '#' :: rest => some (escaped keepsInFragment rest)
    | _ => none
  (query, fragment)

/-- Puts the path, the query and the fragment behind what has been read. -/
def withPath (u : Url) (k : SchemeKind) (cs : List Char) : Url :=
  let (query, fragment) := takeTail k (cs.dropWhile fun c => !endsPath c)
  { u with path := pathOf k (cs.takeWhile fun c => !endsPath c), query, fragment }

/-! ## Addresses -/

/-- Reads what follows the slashes in front of a host. -/
def parseBehindSlashes (k : SchemeKind) (scheme : String) (cs : List Char) :
    Except ParseError Url := do
  let ((user, password), rest) ← takeUser k cs
  let (host, portNumber, rest) ← takeAuthority k scheme rest
  if host = .domain "" ∧ ¬ (user.isEmpty ∧ password.isEmpty) then throw .emptyHost
  let u : Url := {
    scheme, host := some host, portNumber
    username := escaped keepsInUser user
    password := escaped keepsInUser password }
  return u.withPath k rest

/-- Whether a host is the letter of a drive. -/
def isDrive : List Char → Bool
  | [c, d] => c.isAlpha && (d == ':' || d == '|')
  | _ => false

/-- Reads the host of a file; the machine itself is none. -/
def parseFileHost (cs : List Char) : Except ParseError Host := do
  let host ← if cs.isEmpty ∨ isDrive cs then pure (.domain "") else Host.parse cs
  return if host = .domain "localhost" then .domain "" else host

/-- Reads what follows `file:`; only a host can be at fault. -/
def parseFile (cs : List Char) : Except ParseError Url := do
  let slash (c : Char) : Bool := c == '/' || c == '\\'
  let u : Url := { scheme := "file", host := some (.domain "") }
  match cs with
  | a :: b :: rest =>
    if slash a ∧ slash b then
      let host := rest.takeWhile fun c => !endsAuthority .file c
      let parsed ← parseFileHost host
      let rest := if isDrive host then rest else rest.drop host.length
      return { u with host := some parsed }.withPath .file rest
    return u.withPath .file cs
  | _ => return u.withPath .file cs

/-- Reads what follows the colon of any other scheme. -/
def parseOther (scheme : String) (cs : List Char) : Except ParseError Url :=
  match cs with
  | '/' :: '/' :: rest => parseBehindSlashes .other scheme rest
  | '/' :: _ => .ok (withPath { scheme } .other cs)
  | _ =>
    let (query, fragment) := takeTail .other (cs.dropWhile fun c => !endsPath c)
    let text := escaped Host.keeps (cs.takeWhile fun c => !endsPath c)
    .ok { scheme, path := .plain text, query, fragment }

/-- **Reads an address.** -/
def parse (s : String) : Except ParseError Url :=
  match takeScheme (significant s) with
  | none => .error .relative
  | some (scheme, rest) =>
    match SchemeKind.of scheme with
    | .web => parseBehindSlashes .web scheme (rest.dropWhile fun c => c == '/' || c == '\\')
    | .file => parseFile rest
    | .other => parseOther scheme rest

end RegistryProxy.Url
