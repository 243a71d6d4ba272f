import RegistryProxy.Client.Outbound
import RegistryProxy.Search.Results

/-!
# Client/Search — searching an uplink

A `SearchCall` is sent and answered, and its results are then decoded as the body arrives.  Searches
neither ask the breaker nor are counted by it.
-/

namespace RegistryProxy

/-- What is searched for. -/
structure SearchQuery where
  /-- The words. -/
  text : String
  /-- How many results are wanted. -/
  size : Option Nat := none
  /-- How many results are left out. -/
  offset : Option Nat := none
  /-- How much quality counts. -/
  quality : Option Binary64 := none
  /-- How much popularity counts. -/
  popularity : Option Binary64 := none
  /-- How much maintenance counts. -/
  maintenance : Option Binary64 := none
  deriving DecidableEq

namespace SearchQuery

/-- A weight as text. -/
def weightText (x : Binary64) : String := (x.documentText.map String.ofList).getD x.display

/-- The names and values that are sent. -/
def pairs (q : SearchQuery) : List (String × String) :=
  let one {α : Type} (name : String) (f : α → String) (a : Option α) : List (String × String) :=
    (a.map fun a => (name, f a)).toList
  [("text", q.text)] ++ one "size" Nat.repr q.size ++ one "from" Nat.repr q.offset ++
    one "quality" weightText q.quality ++ one "popularity" weightText q.popularity ++
    one "maintenance" weightText q.maintenance

end SearchQuery

/-- How far a call has come. -/
inductive SearchCall.Stage where
  /-- Nothing has happened. -/
  | start
  /-- The request was sent. -/
  | sending (exchange : Exchange)

/-- A search. -/
structure SearchCall where
  /-- What is searched for. -/
  query : SearchQuery
  /-- Whether it was given up. -/
  cancelled : Bool := false
  /-- How far it has come. -/
  stage : SearchCall.Stage := .start

namespace SearchCall

/-- Where an uplink is searched. -/
def urlOf (u : Uplink) : String := u.baseUrl ++ "/-/v1/search"

/-- The error for a body that broke off. -/
def bodyError (_ : Failure) : Error := .network "failed to read search body" (.outside none)

/-- What an answer gives. -/
def resultsOf (url : String) (cancelled : Bool) : Except Failure Response → Except Error Results
  | .error f => .error (Client.transportError url f)
  | .ok r =>
    if 400 ≤ r.status then .error (.badStatus r.status url)
    else .ok { body := r.bodyWith bodyError, cancelled }

/-- Asks for the answer. -/
def await (c : SearchCall) (url : String) (x : Exchange) :
    Poll (Except Error Results) × SearchCall :=
  if c.cancelled then (.ready (.error Results.givenUp), c)
  else
    match x.poll with
    | (.pending, x) => (.pending, { c with stage := .sending x })
    | (.ready answer, _) => (.ready (resultsOf url c.cancelled answer), c)

/-- **Sends the search and asks for the answer.** -/
def poll (c : SearchCall) (w : Client.World) :
    Poll (Except Error Results) × SearchCall × Client.World :=
  let url := urlOf w.client.uplink
  match c.stage with
  | .sending x =>
    let (r, c) := c.await url x
    (r, c, w)
  | .start =>
    match w.client.requestHeaders Client.documentType ∅ none with
    | (.error e, log) => (.ready (.error e), c, w.note log)
    | (.ok headers, log) =>
      let w := w.note log
      if c.cancelled then (.ready (.error Results.givenUp), c, w)
      else
        let (x, w) := w.send { url, query := c.query.pairs, headers }
        let (r, c) := c.await url x
        (r, c, w)

end SearchCall

end RegistryProxy
