import RegistryProxy.Error
import RegistryProxy.Search.Result

/-!
# Search/Scanner — finding results in a response as it arrives

A response is an object with an array of results under `objects`.  `Scanner.feed` takes the next
bytes and gives the results that they complete; it looks at every byte once and keeps only what an
unfinished element or name still needs.  What stands around the array is not checked, only its
strings and brackets are followed, and what comes after the array is not looked at.
-/

namespace RegistryProxy

/-- How far the scanner has come. -/
inductive Scanner.Phase where
  /-- It looks for the array in the outermost object. -/
  | seeking
  /-- It is inside the array. -/
  | elements
  /-- The array has been closed. -/
  | done
  deriving DecidableEq, Repr

/-- A part of the buffer, from the first index to the one behind the last. -/
structure Scanner.Span where
  /-- The first index. -/
  start : Nat
  /-- The index behind the last. -/
  stop : Nat
  deriving DecidableEq, Repr

/-- The state between two bytes. -/
structure Scanner where
  /-- The bytes that are still needed, and those not yet looked at. -/
  buffer : Bytes := []
  /-- The index of the next byte to look at. -/
  position : Nat := 0
  /-- How many brackets are open. -/
  depth : Nat := 0
  /-- Whether a string is open. -/
  inString : Bool := false
  /-- Whether the byte before was a backslash that counts. -/
  escaped : Bool := false
  /-- The index of the last quote that opened a string. -/
  stringStart : Nat := 0
  /-- The last string of the outermost object, unless it was too long. -/
  lastString : Option Bytes := none
  /-- The name of the member at hand. -/
  key : Option Bytes := none
  /-- The index where the element at hand starts. -/
  elementStart : Option Nat := none
  /-- How far the scanner has come. -/
  phase : Scanner.Phase := .seeking
  deriving DecidableEq

namespace Scanner

/-- How many brackets are open between two elements of the array. -/
def elementDepth : Nat := 2

/-- The longest string that is remembered as a name. -/
def maxNameLength : Nat := 64

/-- The name of the member that holds the array. -/
def arrayName : Bytes := Utf8.encode "objects"

/-- The error for a bracket that closes nothing. -/
def malformed : Error := .network "malformed search response" .unknown

/-- The error for a response that ends too early. -/
def cutShort : Error :=
  .network "search response ended before the objects array was complete" .unknown

/-- The error for an element that is no result. -/
def undecodable : Error := .internal "failed to decode search result" (.outside none)

/-- Whether only the brackets around the elements are open. -/
def atElements (s : Scanner) : Bool := s.phase == .elements && s.depth == elementDepth

/-- Whether the scanner looks at the members of the outermost object. -/
def atMembers (s : Scanner) : Bool := s.phase == .seeking && s.depth == 1

/-- The bytes of a part of the buffer. -/
def slice (s : Scanner) (span : Span) : Bytes := (s.buffer.take span.stop).drop span.start

/-- Notes that an element starts at `i`, unless it started before. -/
def startElement (s : Scanner) (i : Nat) : Scanner :=
  if s.atElements && s.elementStart.isNone then { s with elementStart := some i } else s

/-- Ends the element at hand, if there is one, before the index `stop`. -/
def endElement (s : Scanner) (stop : Nat) : Scanner × Option Span :=
  ({ s with elementStart := none }, s.elementStart.map fun start => ⟨start, stop⟩)

/-- A byte inside a string; the string that ends is remembered where names stand. -/
def stringByte (s : Scanner) (i : Nat) (b : UInt8) : Scanner :=
  if s.escaped then { s with escaped := false }
  else if b = 0x5c then { s with escaped := true }
  else if b = 0x22 then
    let s := { s with inString := false }
    if s.atMembers then
      let contents := s.slice ⟨s.stringStart + 1, i⟩
      { s with lastString := if contents.length ≤ maxNameLength then some contents else none }
    else s
  else s

/-- An opening bracket; the one of the array moves on to the elements. -/
def openBracket (s : Scanner) (i : Nat) (b : UInt8) : Scanner :=
  let s := s.startElement i
  let s := { s with depth := s.depth + 1 }
  if s.phase = .seeking ∧ b = 0x5b ∧ s.depth = elementDepth ∧ s.key = some arrayName then
    { s with phase := .elements }
  else s

/-- A closing bracket, which may end an element, or the array with a bare element before it. -/
def closeBracket (s : Scanner) (i : Nat) : Except Error (Scanner × Option Span) :=
  if s.depth = 0 then .error malformed
  else if s.atElements then
    let (s, span) := s.endElement i
    .ok ({ s with phase := .done, depth := s.depth - 1 }, span)
  else
    let s := { s with depth := s.depth - 1 }
    if s.atElements then .ok (s.endElement (i + 1)) else .ok (s, none)

/-- A colon, which makes the last string the name of a member. -/
def colon (s : Scanner) : Scanner :=
  if s.atMembers then { s with key := s.lastString, lastString := none } else s

/-- A comma, which ends a member or a bare element. -/
def comma (s : Scanner) (i : Nat) : Scanner × Option Span :=
  let s := if s.atMembers then { s with key := none, lastString := none } else s
  if s.atElements then s.endElement i else (s, none)

/-- **Looks at the byte at index `i`**; the span is that of an element that ended. -/
def look (s : Scanner) (i : Nat) (b : UInt8) : Except Error (Scanner × Option Span) :=
  if s.inString then .ok (s.stringByte i b, none)
  else if b = 0x22 then .ok ({ s with inString := true, stringStart := i }.startElement i, none)
  else if b = 0x7b ∨ b = 0x5b then .ok (s.openBracket i b, none)
  else if b = 0x7d ∨ b = 0x5d then s.closeBracket i
  else if b = 0x3a then .ok (s.colon, none)
  else if b = 0x2c then .ok (s.comma i)
  else if Json.isSpace b then .ok (s, none)
  else .ok (s.startElement i, none)

/-- Looks at the next byte. -/
def step (s : Scanner) (b : UInt8) : Except Error (Scanner × Option Span) :=
  { s with position := s.position + 1 }.look s.position b

/-- Looks at bytes until the array is closed.  `found` holds the spans so far, latest first. -/
def scan (s : Scanner) (found : List Span) : Bytes → Except Error (Scanner × List Span)
  | [] => .ok (s, found.reverse)
  | b :: rest =>
    if s.phase = .done then .ok (s, found.reverse)
    else
      match s.step b with
      | .error e => .error e
      | .ok (s, span) => s.scan (span.toList ++ found) rest

/-- The first index that an unfinished element or name still needs. -/
def keepFrom (s : Scanner) : Nat :=
  match s.elementStart with
  | some start => start
  | none => if s.atMembers && s.inString then s.stringStart else s.buffer.length

/-- Drops the bytes that are no longer needed. -/
def compact (s : Scanner) : Scanner :=
  let gone := s.keepFrom
  { s with
    buffer := s.buffer.drop gone
    position := s.position - gone
    elementStart := s.elementStart.map (· - gone)
    stringStart := s.stringStart - gone }

/-- The result in a part of the buffer. -/
def decodeSpan (s : Scanner) (span : Span) : Except Error SearchResult :=
  match SearchResult.decode (s.slice span) with
  | some r => .ok r
  | none => .error undecodable

/-- **Takes the next bytes** and gives the results that they complete. -/
def feed (s : Scanner) (chunk : Bytes) : Except Error (List SearchResult × Scanner) :=
  if s.phase = .done then .ok ([], s)
  else do
    let s := { s with buffer := s.buffer ++ chunk }
    let (s, spans) ← s.scan [] (s.buffer.drop s.position)
    let results ← spans.mapM s.decodeSpan
    return (results, s.compact)

/-- Whether a response may end here: after the array, or without any bracket open. -/
def mayEnd (s : Scanner) : Bool :=
  match s.phase with
  | .done => true
  | .seeking => s.depth == 0 && !s.inString
  | .elements => false

end Scanner

end RegistryProxy
