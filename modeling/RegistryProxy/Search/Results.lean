import RegistryProxy.Search.Scanner
import RegistryProxy.Transfer.Body

/-!
# Search/Results — the results of a response, one at a time

`Results` hands out what the scanner finds in a body.  `step` does one thing: it hands out an item,
or takes one part of the body.  `next` goes on until there is an item, the end, or nothing to take
yet.  Giving the search up, and any failure, is told once and ends the results; whatever was
complete before is handed out first.
-/

namespace RegistryProxy

/-- The results that are still to come. -/
structure Results where
  /-- What the source will still send. -/
  body : Body
  /-- The scanner between two chunks. -/
  scanner : Scanner := {}
  /-- Results that are complete. -/
  queue : List SearchResult := []
  /-- Whether nothing more is taken from the body. -/
  finished : Bool := false
  /-- Whether the search was given up. -/
  cancelled : Bool := false
  deriving DecidableEq

namespace Results

/-- The error of a search that was given up. -/
def givenUp : Error := .aborted "search was aborted"

/-- What one step does. -/
inductive Step where
  /-- It hands out a result or a failure. -/
  | item (value : Except Error SearchResult)
  /-- It took a part of the body, or the end of it. -/
  | goOn
  /-- The source is not ready. -/
  | wait
  /-- There is nothing left. -/
  | over

/-- Ends the results with a failure. -/
def fail (r : Results) (e : Error) : Step × Results :=
  (.item (.error e), { r with finished := true })

/-- Takes a chunk. -/
def take (r : Results) (chunk : Bytes) : Step × Results :=
  match r.scanner.feed chunk with
  | .error e => r.fail e
  | .ok (found, scanner) => (.goOn, { r with scanner, queue := found })

/-- Takes the end of the body. -/
def finish (r : Results) : Step × Results :=
  if r.scanner.mayEnd then (.goOn, { r with finished := true }) else r.fail Scanner.cutShort

/-- Asks the body for more. -/
def ask (r : Results) : Step × Results :=
  match r.body.poll with
  | (.pending, body) => (.wait, { r with body })
  | (.ready none, body) => { r with body }.finish
  | (.ready (some (.error e)), body) => { r with body }.fail e
  | (.ready (some (.ok chunk)), body) => { r with body }.take chunk

/-- **Does one thing.** -/
def step (r : Results) : Step × Results :=
  match r.queue with
  | found :: queue => (.item (.ok found), { r with queue })
  | [] =>
    if r.finished then (.over, r)
    else if r.cancelled then r.fail givenUp
    else r.ask

/-- How many steps can go by without an item. -/
def patience (r : Results) : Nat := r.body.length + 2

/-- Does at most `fuel` things, up to an item, the end or a wait. -/
def nextWithin : Nat → Results → Poll (Option (Except Error SearchResult)) × Results
  | 0, r => (.pending, r)
  | fuel + 1, r =>
    match r.step with
    | (.item value, r) => (.ready (some value), r)
    | (.over, r) => (.ready none, r)
    | (.wait, r) => (.pending, r)
    | (.goOn, r) => nextWithin fuel r

/-- **The next result or failure**, or `none` at the end. -/
def next (r : Results) : Poll (Option (Except Error SearchResult)) × Results :=
  nextWithin r.patience r

/-- Gives the search up. -/
def abort (r : Results) : Results := { r with cancelled := true }

end Results

end RegistryProxy
