import RegistryProxy.Toml.Quoted
import RegistryProxy.Toml.Table

/-!
# Toml/Parser — reading a text of settings

`parse` reads statements one after the other and puts each into the tables before it reads the next,
so that of two faults the first in the text is told.  Lists and tables may be nested in one another
`maxDepth` deep, and a key has that many parts at most.
-/

namespace RegistryProxy.Toml

/-- The deepest nesting. -/
def maxDepth : Nat := 79

/-! ## Keys -/

/-- Whether a character may stand in a key without quotes. -/
def isBare (c : Char) : Bool :=
  c.isDigit || ('a' ≤ c && c ≤ 'z') || ('A' ≤ c && c ≤ 'Z') || c == '-' || c == '_'

/-- A key without quotes. -/
def bareKey? (cs : List Char) : Option (String × List Char) :=
  let name := cs.takeWhile isBare
  if name.isEmpty then none else some (String.ofList name, cs.drop name.length)

/-- Takes a simple key and the spaces around it. -/
def simpleKey : Reader Key := do
  spaces
  let place ← Reader.place
  let name ← match ← Reader.rest with
    | '"' :: _ | '\'' :: _ => Quoted.ofLine
    | _ => Reader.token bareKey?
  spaces
  return { name, place }

/-- Takes the simple keys behind points. -/
def moreKeys : Nat → Reader (List Key)
  | 0 => pure []
  | fuel + 1 => do
    match ← Reader.rest with
    | '.' :: _ => do
      Reader.word ['.']
      let key ← simpleKey
      return key :: (← moreKeys fuel)
    | _ => return []

/-- A key: what stands in front of its last part, and that part. -/
def splitLast (first : Key) : List Key → List Key × Key
  | [] => ([], first)
  | k :: ks =>
    let (path, last) := splitLast k ks
    (first :: path, last)

/-- Whether a simple key opens here, behind spaces. -/
def opensKey (cs : List Char) : Bool :=
  match cs.dropWhile isSpace with
  | c :: _ => c == '"' || c == '\'' || isBare c
  | [] => false

/-- Takes a dotted key, if one opens here that does not have too many parts. -/
def key? : Reader (Option (List Key × Key)) := do
  let here ← get
  if !opensKey here.rest then return none
  let first ← simpleKey
  let more ← moreKeys ((← Reader.rest).length + 1)
  if more.length < maxDepth then return splitLast first more
  set here
  return none

/-- Takes a dotted key, which has to be there. -/
def key : Reader (List Key × Key) := do
  match ← key? with
  | some k => return k
  | none => Reader.fail .unexpected

/-! ## Values -/

/-- Takes a comma, if there is one. -/
def comma : Reader Bool := do
  match ← Reader.rest with
  | ',' :: _ => do
    Reader.word [',']
    return true
  | _ => return false

/-- Takes an item of a list and the blanks behind it.  When these do not end well, the item is what
may not stand here. -/
def itemOf (item : Reader Node) : Reader Node := do
  let here ← get
  let n ← item
  if ← skipBlanks then return n
  set here
  Reader.fail .unexpected

/-- Takes the items of a list and its closing bracket. -/
def items (item : Reader Node) : Nat → Reader (List Node)
  | 0 => Reader.fail .unexpected
  | fuel + 1 => do
    discard skipBlanks
    match ← Reader.rest with
    | ']' :: _ => do
      Reader.word [']']
      return []
    | _ => do
      let first ← itemOf item
      if ← comma then return first :: (← items item fuel)
      Reader.word [']']
      return [first]

/-- An entry between braces. -/
structure InlineEntry where
  /-- What stands in front of the last part of the key. -/
  path : List Key
  /-- The last part of the key. -/
  key : Key
  /-- The value. -/
  value : Node

/-- Takes what follows the key of an entry, up to the end of its line. -/
def entryOf (item : Reader Node) (key : List Key × Key) : Reader InlineEntry := do
  Reader.word ['=']
  spaces
  return { path := key.1, key := key.2, value := ← item }

/-- Takes entries between braces, the first key of which has been taken.  A comma without a key
behind it is left. -/
def inlineEntries (item : Reader Node) : Nat → List Key × Key → Reader (List InlineEntry)
  | 0, _ => Reader.fail .unexpected
  | fuel + 1, key => do
    let first ← entryOf item key
    spaces
    let here ← get
    if ← comma then
      match ← key? with
      | some next => return first :: (← inlineEntries item fuel next)
      | none => set here
    return [first]

/-- The table of entries between braces that was opened before `place`. -/
def inlineTable (place : Place) (all : List InlineEntry) : Except Fault Entries :=
  let made := all.foldlM
    (fun es (e : InlineEntry) => Entries.putDotted e.path e.key e.value .closed es) []
  match made with
  | some es => .ok es
  | none => .error { cause := .duplicate, place }

/-- Takes a list. -/
def list (item : Reader Node) : Reader (List Node) := do
  Reader.word ['[']
  items item ((← Reader.rest).length + 1)

/-- Takes a table between braces.  A key that is taken is told before a brace that is missing. -/
def braces (item : Reader Node) : Reader Entries := do
  Reader.word ['{']
  let inside ← Reader.place
  let all ← match ← key? with
    | some key => inlineEntries item ((← Reader.rest).length + 1) key
    | none => pure []
  let made ← inlineTable inside all
  spaces
  Reader.word ['}']
  return made

/-- **Takes a value**; lists and tables are nested at most `depth` deep. -/
def value (depth : Nat) : Reader Node := do
  let place ← Reader.place
  match ← Reader.rest with
  | '"' :: _ | '\'' :: _ => return .leaf place (.text (← Quoted.text))
  | '[' :: _ =>
    match depth with
    | 0 => Reader.fail .tooDeep
    | depth + 1 => return .list place (← list (value depth))
  | '{' :: _ =>
    match depth with
    | 0 => Reader.fail .tooDeep
    | depth + 1 => return .table place .closed (← braces (value depth))
  | _ => return .leaf place (← Reader.token Scalar.read?)

/-! ## Statements -/

/-- Takes a header with its line. -/
def header : Reader Statement := do
  let place ← Reader.place
  match ← Reader.rest with
  | '[' :: '[' :: _ => do
    Reader.word ['[', '[']
    let (path, key) ← key
    Reader.word [']', ']']
    lineRest
    return .repeated place path key
  | _ => do
    Reader.word ['[']
    let (path, key) ← key
    Reader.word [']']
    lineRest
    return .header place path key

/-- Takes an entry with its line. -/
def entryLine : Reader Statement := do
  let e ← entryOf (value maxDepth) (← key)
  lineRest
  return .entry e.path e.key e.value

/-- **Reads statements up to the end of the text** and puts each into the tables. -/
def statements : Nat → Draft → Reader Draft
  | 0, _ => Reader.fail .unexpected
  | fuel + 1, d => do
    spaces
    match ← Reader.rest with
    | [] => return d
    | '#' :: _ => do
      lineRest
      statements fuel d
    | '\n' :: _ | '\r' :: _ => do
      Reader.lineEnd
      statements fuel d
    | '[' :: _ => do
      let d ← Statement.apply d (← header)
      statements fuel d
    | _ => do
      let d ← Statement.apply d (← entryLine)
      statements fuel d

/-- The text behind the mark that some texts start with. -/
def start (text : String) : Cursor :=
  match text.toList with
  | '\ufeff' :: rest => { rest, place := Place.after {} '\ufeff' }
  | rest => { rest }

/-- **The entries of a text**, or the first fault in it. -/
def parse (text : String) : Except Fault Entries := do
  let c := start text
  let (d, _) ← statements (c.rest.length + 1) {} c
  return d.entries

end RegistryProxy.Toml
