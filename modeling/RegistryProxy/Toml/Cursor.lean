/-!
# Toml/Cursor — reading a text that knows where it is

A `Place` is a line and a column, both from one; columns count bytes.  A `Cursor` is what is left of
a text with the place where it starts, and a `Reader` moves a cursor on or stops with a `Fault`.
-/

namespace RegistryProxy.Toml

/-- A place in a text. -/
structure Place where
  /-- The line, from one. -/
  line : Nat := 1
  /-- The bytes before it in its line, plus one. -/
  column : Nat := 1
  deriving DecidableEq, Repr

/-- The place behind a character. -/
def Place.after (p : Place) (c : Char) : Place :=
  if c = '\n' then { line := p.line + 1 } else { p with column := p.column + c.utf8Size }

/-- Why a text does not hold settings. -/
inductive Cause where
  /-- Nothing that may stand here does. -/
  | unexpected
  /-- Lists, tables or keys are nested too deep. -/
  | tooDeep
  /-- A key is defined twice, or as two kinds of thing. -/
  | duplicate
  /-- A setting has a value of another kind. -/
  | unfitting
  /-- A setting of several kinds has a value of yet another; the kinds have a name together. -/
  | noneOf (kinds : String)
  /-- A setting that has to be there is not. -/
  | missing (setting : String)
  deriving DecidableEq, Repr

/-- The wording of a cause. -/
def Cause.message : Cause → String
  | .unexpected => "unexpected text"
  | .tooDeep => "nested too deep"
  | .duplicate => "duplicate key"
  | .unfitting => "invalid type"
  | .noneOf kinds => "data did not match any variant of untagged enum " ++ kinds
  | .missing setting => "missing field `" ++ setting ++ "`"

/-- What is wrong with a text, and where. -/
structure Fault where
  /-- What is wrong. -/
  cause : Cause
  /-- Where. -/
  place : Place
  deriving DecidableEq, Repr

/-- What is left of a text. -/
structure Cursor where
  /-- The characters that are left. -/
  rest : List Char
  /-- Where they start. -/
  place : Place := {}
  deriving DecidableEq

namespace Cursor

/-- The cursor behind the next `n` characters. -/
def advance : Nat → Cursor → Cursor
  | 0, c => c
  | _ + 1, { rest := [], place } => { rest := [], place }
  | n + 1, { rest := ch :: rest, place } => advance n { rest, place := place.after ch }

/-- The cursor at a shorter end of its text. -/
def moveTo (c : Cursor) (rest : List Char) : Cursor := c.advance (c.rest.length - rest.length)

end Cursor

/-- Reads a part of a text. -/
abbrev Reader (α : Type) := StateT Cursor (Except Fault) α

namespace Reader

/-- Stops here. -/
def fail {α : Type} (cause : Cause) : Reader α := fun c => .error { cause, place := c.place }

/-- What is left. -/
def rest : Reader (List Char) := fun c => .ok (c.rest, c)

/-- Where the reader is. -/
def place : Reader Place := fun c => .ok (c.place, c)

/-- Takes characters of a kind. -/
def skipWhile (p : Char → Bool) : Reader Unit :=
  fun c => .ok ((), c.advance (c.rest.takeWhile p).length)

/-- Takes one text, which has to be there. -/
def word (text : List Char) : Reader Unit := fun c =>
  if text.isPrefixOf c.rest then .ok ((), c.advance text.length)
  else .error { cause := .unexpected, place := c.place }

/-- Takes what `f` takes, which has to be something. -/
def token {α : Type} (f : List Char → Option (α × List Char)) : Reader α := fun c =>
  match f c.rest with
  | some (a, rest) => .ok (a, c.moveTo rest)
  | none => .error { cause := .unexpected, place := c.place }

/-- Takes the end of a line, which has to be here unless the text ends. -/
def lineEnd : Reader Unit := fun c =>
  match c.rest with
  | [] => .ok ((), c)
  | '\n' :: _ => .ok ((), c.advance 1)
  | '\r' :: '\n' :: _ => .ok ((), c.advance 2)
  | _ => .error { cause := .unexpected, place := c.place }

end Reader

/-- Whether a character separates on a line. -/
def isSpace (c : Char) : Bool := c == ' ' || c == '\t'

/-- Whether a character may stand in comments and texts. -/
def isPlain (c : Char) : Bool := c == '\t' || (' ' ≤ c && c != '\x7f')

/-- Takes the spaces in front. -/
def spaces : Reader Unit := Reader.skipWhile isSpace

/-- Takes a comment, if there is one. -/
def comment : Reader Unit := do
  if (← Reader.rest).head? = some '#' then Reader.skipWhile isPlain

/-- Takes the rest of a line that says nothing more. -/
def lineRest : Reader Unit := do
  spaces
  comment
  Reader.lineEnd

/-- Takes spaces, comments and line ends.  Tells whether they end well: a comment has the end of its
line behind it, and a carriage return is part of one. -/
def blanks : Nat → Reader Bool
  | 0 => pure true
  | fuel + 1 => do
    spaces
    let before ← Reader.rest
    comment
    match ← Reader.rest with
    | '\n' :: _ | '\r' :: '\n' :: _ => do
      Reader.lineEnd
      blanks fuel
    | '\r' :: _ => pure false
    | _ => pure (before.head? != some '#')

/-- Takes all spaces, comments and line ends in front, and tells whether they end well. -/
def skipBlanks : Reader Bool := do blanks ((← Reader.rest).length + 1)

end RegistryProxy.Toml
