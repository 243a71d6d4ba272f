import RegistryProxy.Http.Headers
import RegistryProxy.Transfer.Stream
import RegistryProxy.Url.Parser

/-!
# Client/Network — requests and what comes back

A `Network` answers the requests that are sent over it, one after the other, and remembers them.  An
address that no connection can be made to is never sent.  An answer is what the library that sends
them hands over, redirects followed: what passes between it and the hosts until then is not seen
here.
-/

namespace RegistryProxy

/-- Why there is no answer, or why the rest of a body is missing. -/
inductive Failure where
  /-- It took too long. -/
  | timedOut
  /-- The connection could not be made, or broke. -/
  | broken
  deriving DecidableEq, Repr

/-- A request for a document. -/
structure Request where
  /-- The address. -/
  url : String
  /-- What is added to the query of the address, in order. -/
  query : List (String × String) := []
  /-- The headers. -/
  headers : Headers := ∅
  deriving DecidableEq

namespace Request

/-- Whether a byte of a form stands for itself. -/
def keepsInForm (b : UInt8) : Bool :=
  (0x41 ≤ b && b ≤ 0x5a) || (0x61 ≤ b && b ≤ 0x7a) || (0x30 ≤ b && b ≤ 0x39) ||
    [0x2a, 0x2d, 0x2e, 0x5f].contains b

/-- A text in a form: spaces become plus signs. -/
def formText (s : String) : String :=
  let one (b : UInt8) : List Char := if b = 0x20 then ['+'] else Percent.encodeByte keepsInForm b
  String.ofList ((Utf8.encode s).flatMap one)

/-- Names and values as a form. -/
def form (pairs : List (String × String)) : String :=
  "&".intercalate (pairs.map fun p => formText p.1 ++ "=" ++ formText p.2)

/-- **The address that is asked for**, if there is one that a connection can be made to. -/
def target? (r : Request) : Option Url := do
  let u ← (Url.parse r.url).toOption
  guard (u.scheme = "http" ∨ u.scheme = "https")
  if r.query.isEmpty then return u
  let old := u.query.filter fun q => !q.isEmpty
  return { u with query := some ("&".intercalate (old.toList ++ [form r.query])) }

end Request

/-- What a registry answers. -/
structure Response where
  /-- The status. -/
  status : Nat
  /-- The headers. -/
  headers : Headers := ∅
  /-- How many bytes the body has, if it was declared. -/
  length : Option Nat := none
  /-- The body. -/
  body : List (Part Failure) := []

namespace Response

/-- Whether the status says that all went well. -/
def isSuccess (r : Response) : Bool := 200 ≤ r.status && r.status < 300

/-- The body, its failures told as errors. -/
def bodyWith (r : Response) (f : Failure → Error) : Body := r.body.map (Part.mapFault f)

/-- The tag of the document, when it is plain text. -/
def etag (r : Response) : Option String := r.headers.get? "etag" >>= HeaderValue.text?

end Response

/-- What becomes of a request: how many times it is not ready (`none` is always), and the answer. -/
structure Exchange where
  /-- How often it is not ready. -/
  waits : Option Nat := some 0
  /-- The answer in the end. -/
  answer : Except Failure Response

namespace Exchange

/-- Asks once for the answer. -/
def poll (x : Exchange) : Poll (Except Failure Response) × Exchange :=
  match x.waits with
  | none => (.pending, x)
  | some 0 => (.ready x.answer, x)
  | some (n + 1) => (.pending, { x with waits := some n })

end Exchange

/-- The network between a client and its uplink. -/
structure Network where
  /-- What becomes of each request that is sent, by its number. -/
  answers : Nat → Exchange
  /-- The requests that were sent, oldest first. -/
  sent : List Request := []

namespace Network

/-- The answer of a registry that does not have a document. -/
def notFound : Exchange := { answer := .ok { status := 404, length := some 0 } }

/-- A network that answers as listed, and after that has nothing. -/
def ofList (answers : List Exchange) : Network :=
  { answers := fun n => (answers[n]?).getD notFound }

/-- A network on which no connection can be made. -/
def refusing : Network := { answers := fun _ => { answer := .error .broken } }

/-- **Sends a request.**  One that has no address to connect to fails without being sent. -/
def send (n : Network) (r : Request) : Exchange × Network :=
  if r.target?.isSome then (n.answers n.sent.length, { n with sent := n.sent ++ [r] })
  else ({ answer := .error .broken }, n)

end Network

end RegistryProxy
