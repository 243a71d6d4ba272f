import RegistryProxy.Binary64.Decimal
import RegistryProxy.Text.Blank
import RegistryProxy.Version.Basic

/-!
# Version/Parser — reading versions as registries spell them

Blanks around a version, any run of `v`, `=` and blanks in front of it and a missing hyphen before
the prerelease are allowed.  `Version.parse` names the part at fault: build metadata is looked at
first, then the numbers from left to right, then the prerelease.
-/

namespace RegistryProxy.Version

/-- Why a text is no version. -/
inductive ParseError where
  /-- It does not have three numbers separated by points. -/
  | format (input : String)
  /-- A number does not fit into 64 bits. -/
  | number (component : String)
  /-- What follows the numbers is no list of identifiers. -/
  | prerelease (text : String)
  /-- What follows the plus is no list of identifiers. -/
  | build (text : String)
  deriving DecidableEq, Repr

/-- The wording of a parse error. -/
def ParseError.message : ParseError → String
  | .format input => "Invalid version format: " ++ input
  | .number component => "Invalid number in version: " ++ component
  | .prerelease text => "Invalid prerelease identifier: " ++ text
  | .build text => "Invalid build metadata: " ++ text

/-- Whether a character may stand in an identifier. -/
def isIdentifierChar (c : Char) : Bool := c.isAlphanum || c == '-'

/-- Whether a text is identifiers separated by points, none of them empty. -/
def areIdentifiers (cs : List Char) : Bool :=
  (Text.splitAt '.' cs).all fun ident => !ident.isEmpty && ident.all isIdentifierChar

/-- Whether a character may stand in front of a version. -/
def isLead (c : Char) : Bool := c == 'v' || c == '=' || Text.isBlank c

/-- The number in front and what follows it.  `input` is the text to blame. -/
def takeNumber (input : String) (cs : List Char) : Except ParseError (Nat × List Char) :=
  let digits := cs.takeWhile Char.isDigit
  let value := Decimal.digitsValue digits
  if digits.isEmpty then .error (.format input)
  else if value < 0x10000000000000000 then .ok (value, cs.dropWhile Char.isDigit)
  else .error (.number (String.ofList digits))

/-- What follows the point in front.  `input` is the text to blame. -/
def takePoint (input : String) : List Char → Except ParseError (List Char)
  | '.' :: cs => .ok cs
  | _ => .error (.format input)

/-- The build metadata after the plus, if there is one, and the text before it. -/
def takeBuild (cs : List Char) : Except ParseError (List Char × Option String) :=
  match Text.cutAt '+' cs with
  | none => .ok (cs, none)
  | some (before, after) =>
    if areIdentifiers after then .ok (before, some (String.ofList after))
    else .error (.build (String.ofList after))

/-- The prerelease in what follows the numbers. -/
def prereleaseOf (cs : List Char) : Except ParseError (Option String) :=
  let bare := match cs with
    | '-' :: rest => rest
    | _ => cs
  if cs.isEmpty then .ok none
  else if areIdentifiers bare then .ok (some (String.ofList bare))
  else .error (.prerelease (String.ofList cs))

/-- **Reads a version**, spelled loosely. -/
def parse (s : String) : Except ParseError Version := do
  let trimmed := Text.trim s.toList
  let input := String.ofList trimmed
  let (release, build) ← takeBuild (trimmed.dropWhile isLead)
  let (major, rest) ← takeNumber input release
  let rest ← takePoint input rest
  let (minor, rest) ← takeNumber input rest
  let rest ← takePoint input rest
  let (patch, rest) ← takeNumber input rest
  let prerelease ← prereleaseOf rest
  return { major, minor, patch, prerelease, build }

/-- The version a text spells, if it spells one. -/
def parse? (s : String) : Option Version := (parse s).toOption

end RegistryProxy.Version
