import RegistryProxy.Certificate.Armor
import RegistryProxy.Certificate.Element

/-!
# Certificate/Form — what a certificate is made of

A `Form` tells which elements may stand in a place and reads one of them.  Forms are put together
from smaller ones; `Certificate.form` is the whole.  `Certificate.isValid` looks for a certificate
in a text.
-/

namespace RegistryProxy

/-- What may stand in a place. -/
structure Form where
  /-- Whether it may be left out. -/
  optional : Bool := false
  /-- Whether an element is meant for the place. -/
  opens : Element → Bool
  /-- What follows such an element, when it has the form. -/
  read : Element → Option Bytes

namespace Form

/-- Whether an element is universal with a number. -/
def isUniversal (number : Nat) (e : Element) : Bool := e.family == 0 && e.number == number

/-- Whether the place of an element tells its meaning by a number. -/
def isPlaced (number : Nat) (e : Element) : Bool := e.family == 2 && e.number == number

/-- A form that may be left out. -/
def maybe (f : Form) : Form := { f with optional := true }

/-- A universal element that is not made of others. -/
def simple (number : Nat) : Form where
  opens := isUniversal number
  read e := (e.value? number).map Prod.snd

/-- The same, its number replaced by that of its place. -/
def simpleAt (place number : Nat) : Form where
  opens := isPlaced place
  read e := (e.value? number).map Prod.snd

/-- Any element: sequences, sets and what is not universal are not looked into. -/
def any : Form where
  opens _ := true
  read e :=
    if e.family ≠ 0 then e.skip?
    else if e.number = Element.sequence ∨ e.number = Element.set then
      if e.constructed then e.skip? else none
    else (e.value? e.number).map Prod.snd

/-- Reads what an element is made of, one form after the other. -/
def readAll (e : Element) : List Form → Bytes → Option Bytes
  | [], bs => e.close bs
  | f :: fs, bs =>
    if e.endsAt bs then if (f :: fs).all Form.optional then e.close bs else none
    else if Element.isEnd bs then none
    else do
      let inner ← Element.open? bs
      if f.opens inner then readAll e fs (← f.read inner)
      else if f.optional then readAll e fs bs
      else none

/-- Reads what an element is made of, each time the same form; `fuel` bounds their number. -/
def readEach (e : Element) (f : Form) (fuel : Nat) (bs : Bytes) : Option Bytes :=
  match fuel with
  | 0 => none
  | fuel + 1 =>
    if e.endsAt bs then e.close bs
    else if Element.isEnd bs then none
    else do
      let inner ← Element.open? bs
      if f.opens inner then readEach e f fuel (← f.read inner) else none

/-- A sequence of forms. -/
def sequence (fs : List Form) : Form where
  opens := isUniversal Element.sequence
  read e := if e.constructed then readAll e fs e.content else none

/-- Any number of elements of one form. -/
def many (number : Nat) (f : Form) : Form where
  opens := isUniversal number
  read e := readEach e f (e.content.length + 1) e.content

/-- An element around one of a form, with the number of its place. -/
def inside (place : Nat) (f : Form) : Form where
  opens := isPlaced place
  read e := if e.constructed then readAll e [f] e.content else none

end Form

namespace Certificate

/-! ## Names -/

/-- The numbers of what may stand in a name. -/
def nameKinds : List Nat := [3, 7, 8, 9, 11, 12, 13, 14, 15, 16, 18, 19, 20, 22, 28, 29, 30]

/-- Whether bytes are characters of four bytes each. -/
def areWide : Bytes → Bool
  | a :: b :: c :: d :: rest =>
    (((a.toNat * 256 + b.toNat) * 256 + c.toNat) * 256 + d.toNat).isValidChar && areWide rest
  | rest => rest.isEmpty

/-- Whether bytes are characters of two bytes each. -/
def arePairs : Bytes → Bool
  | a :: b :: rest => (a.toNat * 256 + b.toNat).isValidChar && arePairs rest
  | rest => rest.isEmpty

/-- Whether a text with this number consists of characters. -/
def isText (number : Nat) (content : Bytes) : Bool :=
  if number = Element.utf8Text then (Utf8.decode content).isSome
  else if number = Element.wideText then areWide content
  else if number = Element.pairText then arePairs content
  else true

/-- A value in a name. -/
def nameValue : Form where
  opens e := e.family == 0 && nameKinds.contains e.number
  read e :=
    if e.number = Element.sequence then if e.constructed then e.skip? else none
    else do
      let (content, rest) ← e.value? e.number
      guard (isText e.number content)
      return rest

/-- A name: sets of values, each with its meaning. -/
def name : Form :=
  .many Element.sequence (.many Element.set (.sequence [.simple Element.object, nameValue]))

/-! ## The whole -/

/-- How something was computed. -/
def algorithm : Form := .sequence [.simple Element.object, .maybe .any]

/-- A moment. -/
def moment : Form where
  opens e := e.family == 0 && (e.number == Element.shortMoment || e.number == Element.longMoment)
  read e := (e.value? e.number).map Prod.snd

/-- From when to when something holds. -/
def period : Form := .sequence [moment, moment]

/-- The key of the one who is named. -/
def publicKey : Form := .sequence [algorithm, .simple Element.bits]

/-- One of the further things that a certificate says. -/
def extension : Form :=
  .sequence [.simple Element.object, .maybe (.simple Element.boolean), .simple Element.octets]

/-- What a certificate says: its version and number, how it is signed, by whom, from when to when
and of whom, the key, and more. -/
def body : Form := .sequence [
  .maybe (.inside 0 (.simple Element.integer)), .simple Element.integer,
  algorithm, name, period, name, publicKey,
  .maybe (.simpleAt 1 Element.bits), .maybe (.simpleAt 2 Element.bits),
  .maybe (.inside 3 (.many Element.sequence extension))]

/-- **A certificate**: what it says, how that is signed, and the signature. -/
def form : Form := .sequence [body, algorithm, .simple Element.bits]

/-- Whether bytes start with a certificate. -/
def startsBytes (bs : Bytes) : Bool :=
  match Element.open? bs with
  | some e => form.opens e && (form.read e).isSome
  | none => false

/-- Whether a block of this kind holds a certificate. -/
def isKind (kind : Bytes) : Bool :=
  kind == Utf8.encode "CERTIFICATE" || kind == Utf8.encode "X509 CERTIFICATE"

/-- **Whether a text has a certificate that can be used.**  The first one counts, and it must not
have a head. -/
def isValid (text : String) : Bool :=
  match Armor.find? isKind (Utf8.encode text) with
  | some block => block.head.isEmpty && startsBytes block.bytes
  | none => false

end Certificate

end RegistryProxy
