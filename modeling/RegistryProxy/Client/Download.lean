import RegistryProxy.Client.Outbound

/-!
# Client/Download — fetching a tarball

A `Download` is checked when it is made and sent when it is first asked for something, so what was
true at the check may no longer be true when the request goes out.  The breaker counts whether
headers came back; a download that was given up before is not counted.
-/

namespace RegistryProxy

/-- A tarball on its way from an uplink. -/
structure Download where
  /-- Where the tarball is. -/
  url : String
  /-- The stream that is handed out. -/
  stream : Stream
  /-- The request, until it is sent. -/
  request : Option Request := none
  /-- What the breaker has to count once the source has opened or failed. -/
  outcome : Option Bool := none

namespace Download

/-- A source that is not asked for before the request is sent. -/
def notSent : Opening := { waits := none, answer := .error Stream.abortedWhileOpening }

/-- A download that fails when it is asked for something. -/
def refused (url : String) (e : Error) : Download := { url, stream := .failed e }

/-- **Makes a download**; `cancelled` tells that it has been given up already. -/
def start (w : Client.World) (url : String) (h : Headers) (peer : Option Peer)
    (cancelled : Bool) : Download × Client.World :=
  if !w.isAvailable then (refused url w.offline, w)
  else
    match w.client.requestHeaders Client.tarballType h peer with
    | (.error e, log) => (refused url e, w.note log)
    | (.ok headers, log) =>
      let stream := { Stream.ofOpening notSent with cancelled }
      ({ url, stream, request := some { url, headers } }, w.note log)

/-- The error for a request whose headers did not come in time. -/
def timeoutError (url : String) (timeout : Duration) : Error :=
  .network ("request to " ++ url ++ " timed out after " ++ timeout.display) .unknown

/-- The error for a body that broke off. -/
def bodyError (_ : Failure) : Error := .network "failed to read tarball body" (.outside none)

/-- What the source opens with. -/
def openedWith (url : String) (timeout : Duration) : Except Failure Response → Except Error Opened
  | .error .timedOut => .error (timeoutError url timeout)
  | .error .broken => .error (Client.transportError url .broken)
  | .ok r =>
    if r.status = 404 then .error (.notFound url)
    else if r.isSuccess then .ok { body := r.bodyWith bodyError, length := r.length }
    else .error (.badStatus r.status url)

/-- Whether headers came back. -/
def cameBack : Except Failure Response → Bool
  | .ok _ => true
  | .error _ => false

/-- Sends the request, unless it was sent or given up. -/
def connect (d : Download) (w : Client.World) : Download × Client.World :=
  match d.request, d.stream.cancelled with
  | some request, false =>
    let (x, w) := w.send request
    let answer := openedWith d.url w.client.uplink.timeout x.answer
    ({ d with
      stream := { d.stream with source := .opening { waits := x.waits, answer } }
      request := none
      outcome := some (cameBack x.answer) }, w)
  | _, _ => (d, w)

/-- Lets the breaker count what became of the request. -/
def count (d : Download) (w : Client.World) : Download × Client.World :=
  match d.stream.stage, d.outcome with
  | .opening, _ | _, none => (d, w)
  | .aborted, some _ => ({ d with outcome := none }, w)
  | _, some success => ({ d with outcome := none }, w.record success)

/-- **Asks once for the source to open.** -/
def pollOpen (d : Download) (w : Client.World) :
    Poll (Except Error (Option Nat)) × Download × Client.World :=
  let (d, w) := d.connect w
  let (r, stream) := d.stream.pollOpen
  let (d, w) := { d with stream }.count w
  (r, d, w)

/-- **Asks once for the next chunk.** -/
def next (d : Download) (w : Client.World) :
    Poll (Option (Except Error Bytes)) × Download × Client.World :=
  let (d, w) := d.connect w
  let turn := d.stream.next
  let (d, w) := { d with stream := turn.stream }.count w
  (turn.item, d, w.note turn.log)

/-- Gives the download up. -/
def abort (d : Download) : Download := { d with stream := d.stream.abort }

/-- Takes at most `fuel` items: what came, and how it ended. -/
def readWithin : Nat → Download → Client.World → Bytes →
    (Bytes × Option Error) × Download × Client.World
  | 0, d, w, collected => ((collected, none), d, w)
  | fuel + 1, d, w, collected =>
    match d.next w with
    | (.ready (some (.ok chunk)), d, w) => readWithin fuel d w (collected ++ chunk)
    | (.ready (some (.error e)), d, w) => ((collected, some e), d, w)
    | (_, d, w) => ((collected, none), d, w)

/-- **Takes items until the stream ends, fails or waits.** -/
def read (d : Download) (w : Client.World) : (Bytes × Option Error) × Download × Client.World :=
  let (d, w) := d.connect w
  readWithin (d.stream.remaining + 2) d w []

end Download

end RegistryProxy
