import RegistryProxy.Client.Outbound
import RegistryProxy.Package.Document
import RegistryProxy.Package.Name
import RegistryProxy.Transfer.Pipe

/-!
# Client/Metadata — fetching the document of a package

A `MetadataCall` is refused, sent, answered and read, one step at a time, and may be given up at any
of them.  The breaker counts whether headers came back, whatever the status and the body are.
-/

namespace RegistryProxy

/-- A document with the tag it came with. -/
structure RemoteMetadata where
  /-- The package. -/
  package : Package
  /-- The tag, for the next fetch. -/
  etag : Option String
  deriving DecidableEq

/-- How far a call has come. -/
inductive MetadataCall.Stage where
  /-- Nothing has happened. -/
  | start
  /-- The request is ready. -/
  | asking (request : Request)
  /-- The request was sent. -/
  | sending (exchange : Exchange)
  /-- Headers came back, and the body is read. -/
  | reading (etag : Option String) (rest : Body) (collected : Bytes)
  /-- It is over. -/
  | over (result : Except Error RemoteMetadata)

/-- A fetch of the document of a package. -/
structure MetadataCall where
  /-- The name of the package. -/
  name : String
  /-- The tag of the copy at hand. -/
  etag : Option String := none
  /-- The headers that are passed on. -/
  headers : Headers := ∅
  /-- On whose behalf it is made. -/
  peer : Option Peer := none
  /-- Whether it was given up. -/
  cancelled : Bool := false
  /-- How far it has come. -/
  stage : MetadataCall.Stage := .start

namespace MetadataCall

/-- Where the document of a package is. -/
def urlOf (u : Uplink) (name : String) : String := u.baseUrl ++ "/" ++ Package.encodeName name

/-- The error for a call that was given up. -/
def givenUp (url : String) : Error := .aborted ("request to " ++ url ++ " was aborted")

/-- The error for a tag that cannot be sent. -/
def invalidTag (etag : String) : Error :=
  .internal ("etag '" ++ etag ++ "' is not a valid header value") .unknown

/-- The error for a document that is no package. -/
def unreadable (name : String) : Error :=
  .internal ("failed to parse metadata for '" ++ name ++ "'") (.outside none)

/-- The headers that are passed on, with the tag of the copy at hand. -/
def conditional (c : MetadataCall) : Except Error Headers :=
  match c.etag with
  | none => .ok c.headers
  | some etag =>
    match HeaderValue.ofText? etag with
    | some value => .ok (c.headers.insert "if-none-match" value)
    | none => .error (invalidTag etag)

/-- The result of an answer without a body to read. -/
def refusal (name url : String) (status : Nat) : Error :=
  if status = 404 then .notFound name else .badStatus status url

/-- The result of a body that was read. -/
def finish (name : String) (etag : Option String) (body : Bytes) : Except Error RemoteMetadata :=
  match Package.decode body with
  | some package => .ok { package, etag }
  | none => .error (unreadable name)

/-- What a step gives: the call goes on, waits or is over. -/
abbrev Step := Progress (Except Error RemoteMetadata) × MetadataCall × Client.World

/-- The call at another stage. -/
def goTo (c : MetadataCall) (stage : Stage) (w : Client.World) : Step :=
  (.goOn, { c with stage }, w)

/-- Checks whether the request may go out, and makes it ready. -/
def prepare (c : MetadataCall) (w : Client.World) : Step :=
  if !w.isAvailable then c.goTo (.over (.error w.offline)) w
  else
    match c.conditional with
    | .error e => c.goTo (.over (.error e)) w
    | .ok h =>
      match w.client.requestHeaders Client.documentType h c.peer with
      | (.error e, log) => c.goTo (.over (.error e)) (w.note log)
      | (.ok headers, log) =>
        c.goTo (.asking { url := urlOf w.client.uplink c.name, headers }) (w.note log)

/-- Takes the answer. -/
def answered (c : MetadataCall) (url : String) (w : Client.World) : Except Failure Response → Step
  | .error f => c.goTo (.over (.error (Client.transportError url f))) (w.record false)
  | .ok r =>
    if r.isSuccess then
      c.goTo (.reading r.etag (r.bodyWith (Client.transportError url)) []) (w.record true)
    else c.goTo (.over (.error (refusal c.name url r.status))) (w.record true)

/-- Takes a part of the body. -/
def read (c : MetadataCall) (etag : Option String) (rest : Body) (collected : Bytes)
    (w : Client.World) : Step :=
  match rest.poll with
  | (.pending, rest) => (.wait, { c with stage := .reading etag rest collected }, w)
  | (.ready none, _) => c.goTo (.over (finish c.name etag collected)) w
  | (.ready (some (.error e)), _) => c.goTo (.over (.error e)) w
  | (.ready (some (.ok chunk)), rest) => c.goTo (.reading etag rest (collected ++ chunk)) w

/-- **Does what comes next.** -/
def step (c : MetadataCall) (w : Client.World) : Step :=
  let url := urlOf w.client.uplink c.name
  match c.stage with
  | .start => c.prepare w
  | .asking request =>
    if c.cancelled then c.goTo (.over (.error (givenUp url))) w
    else
      let (x, w) := w.send request
      c.goTo (.sending x) w
  | .sending x =>
    if c.cancelled then c.goTo (.over (.error (givenUp url))) w
    else
      match x.poll with
      | (.pending, x) => (.wait, { c with stage := .sending x }, w)
      | (.ready answer, _) => c.answered url w answer
  | .reading etag rest collected =>
    if c.cancelled then c.goTo (.over (.error (givenUp url))) w
    else c.read etag rest collected w
  | .over result => (.over result, c, w)

/-- How many steps can be taken before the call waits. -/
def patience (c : MetadataCall) (w : Client.World) : Nat :=
  let ofAnswer : Except Failure Response → Nat
    | .ok r => r.body.length
    | .error _ => 0
  match c.stage with
  | .start | .asking _ => ofAnswer (w.network.answers w.network.sent.length).answer + 8
  | .sending x => ofAnswer x.answer + 8
  | .reading _ rest _ => rest.length + 8
  | .over _ => 8

/-- Takes at most `fuel` steps. -/
def run : Nat → MetadataCall → Client.World →
    Poll (Except Error RemoteMetadata) × MetadataCall × Client.World
  | 0, c, w => (.pending, c, w)
  | fuel + 1, c, w =>
    match c.step w with
    | (.goOn, c, w) => run fuel c w
    | (.wait, c, w) => (.pending, c, w)
    | (.over result, c, w) => (.ready result, c, w)

/-- **Goes on until it is over or has to wait.** -/
def poll (c : MetadataCall) (w : Client.World) :
    Poll (Except Error RemoteMetadata) × MetadataCall × Client.World := run (c.patience w) c w

end MetadataCall

end RegistryProxy
