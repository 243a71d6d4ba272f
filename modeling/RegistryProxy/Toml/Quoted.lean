import RegistryProxy.Toml.Cursor

/-!
# Toml/Quoted — texts between quotes

Texts stand between quotes or between apostrophes, on one line between one of them and on many lines
between three.  Quoted texts have escapes; a backslash at the end of a line takes all blanks up to
the next word with it.  Between three quotes up to two more may stand in front of the closing ones.
-/

namespace RegistryProxy.Toml.Quoted

/-- What reading gives: the characters, and what is left. -/
abbrev Outcome := Except Fault (List Char × Cursor)

/-- Stops at a place. -/
def stop (place : Place) : Outcome := .error { cause := .unexpected, place }

/-- A character in front of what is read. -/
def add (c : Char) (o : Outcome) : Outcome := o.map fun r => (c :: r.1, r.2)

/-- The place behind several characters. -/
def behind (p : Place) (cs : List Char) : Place := cs.foldl Place.after p

/-- The value of a hexadecimal digit. -/
def hexValue (c : Char) : Option Nat :=
  if c.isDigit then some (c.toNat - '0'.toNat)
  else if 'a' ≤ c && c ≤ 'f' then some (c.toNat - 'a'.toNat + 10)
  else if 'A' ≤ c && c ≤ 'F' then some (c.toNat - 'A'.toNat + 10)
  else none

/-- The number in hexadecimal digits. -/
def hexNumber (cs : List Char) : Option Nat :=
  cs.foldlM (fun n c => (hexValue c).map (n * 16 + ·)) 0

/-- The character with a code in hexadecimal digits. -/
def scalar? (cs : List Char) : Option Char := do
  let n ← hexNumber cs
  if n.isValidChar then some (Char.ofNat n) else none

/-- The character that a letter after a backslash stands for. -/
def shortEscape : Char → Option Char
  | 'b' => some '\x08'
  | 't' => some '\t'
  | 'n' => some '\n'
  | 'f' => some '\x0c'
  | 'r' => some '\r'
  | '"' => some '"'
  | '\\' => some '\\'
  | _ => none

/-- Reads up to the closing quote. -/
def readLine (p : Place) : List Char → Outcome
  | [] => stop p
  | '"' :: cs => .ok ([], { rest := cs, place := p.after '"' })
  | '\\' :: 'u' :: a :: b :: c :: d :: cs =>
    match scalar? [a, b, c, d] with
    | some ch => add ch (readLine (behind p ['\\', 'u', a, b, c, d]) cs)
    | none => stop p
  | '\\' :: 'U' :: a :: b :: c :: d :: e :: f :: g :: h :: cs =>
    match scalar? [a, b, c, d, e, f, g, h] with
    | some ch => add ch (readLine (behind p ['\\', 'U', a, b, c, d, e, f, g, h]) cs)
    | none => stop p
  | '\\' :: c :: cs =>
    match shortEscape c with
    | some ch => add ch (readLine (behind p ['\\', c]) cs)
    | none => stop (behind p ['\\', c])
  | c :: cs => if isPlain c && c != '\\' then add c (readLine (p.after c) cs) else stop p

/-- Whether nothing but spaces stands before the end of the line. -/
def endsLine (cs : List Char) : Bool :=
  match cs.dropWhile isSpace with
  | '\n' :: _ | '\r' :: '\n' :: _ => true
  | _ => false

/-- The quotes that belong to a text, when three of them closed it and `cs` follows. -/
def surplus (quote : Char) (p : Place) (cs : List Char) : List Char × Cursor :=
  let extra := (cs.takeWhile (· == quote)).take 2
  (extra, { rest := cs.drop extra.length, place := behind p extra })

/-- Reads up to three closing quotes; `trimming` tells that blanks are dropped. -/
def readLines (p : Place) (trimming : Bool) : List Char → Outcome
  | [] => stop p
  | '"' :: '"' :: '"' :: cs => .ok (surplus '"' (behind p ['"', '"', '"']) cs)
  | '\\' :: 'u' :: a :: b :: c :: d :: cs =>
    match scalar? [a, b, c, d] with
    | some ch => add ch (readLines (behind p ['\\', 'u', a, b, c, d]) false cs)
    | none => stop p
  | '\\' :: 'U' :: a :: b :: c :: d :: e :: f :: g :: h :: cs =>
    match scalar? [a, b, c, d, e, f, g, h] with
    | some ch => add ch (readLines (behind p ['\\', 'U', a, b, c, d, e, f, g, h]) false cs)
    | none => stop p
  | '\\' :: c :: cs =>
    if endsLine (c :: cs) then readLines (behind p ['\\', c]) true cs
    else
      match shortEscape c with
      | some ch => add ch (readLines (behind p ['\\', c]) false cs)
      | none => stop (behind p ['\\', c])
  | '\r' :: '\n' :: cs =>
    let o := readLines (behind p ['\r', '\n']) trimming cs
    if trimming then o else add '\n' o
  | c :: cs =>
    if trimming && (isSpace c || c == '\n') then readLines (p.after c) true cs
    else if c == '\n' || (isPlain c && c != '\\') then add c (readLines (p.after c) false cs)
    else stop p

/-- Reads up to the closing apostrophe. -/
def readRawLine (p : Place) : List Char → Outcome
  | [] => stop p
  | '\'' :: cs => .ok ([], { rest := cs, place := p.after '\'' })
  | c :: cs => if isPlain c then add c (readRawLine (p.after c) cs) else stop p

/-- Reads up to three closing apostrophes. -/
def readRawLines (p : Place) : List Char → Outcome
  | [] => stop p
  | '\'' :: '\'' :: '\'' :: cs => .ok (surplus '\'' (behind p ['\'', '\'', '\'']) cs)
  | '\r' :: '\n' :: cs => add '\n' (readRawLines (behind p ['\r', '\n']) cs)
  | c :: cs => if c == '\n' || isPlain c then add c (readRawLines (p.after c) cs) else stop p

/-- The cursor behind the end of a line, if one stands here. -/
def skipLineEnd (c : Cursor) : Cursor :=
  match c.rest with
  | '\n' :: _ => c.advance 1
  | '\r' :: '\n' :: _ => c.advance 2
  | _ => c

/-- The text that was read. -/
def finish (o : Outcome) : Except Fault (String × Cursor) :=
  o.map fun r => (String.ofList r.1, r.2)

/-- **Takes a text on one line**, as keys are written. -/
def ofLine : Reader String := fun c =>
  match c.rest with
  | '"' :: cs => finish (readLine (c.place.after '"') cs)
  | '\'' :: cs => finish (readRawLine (c.place.after '\'') cs)
  | _ => Reader.fail .unexpected c

/-- **Takes a text**, as values are written. -/
def text : Reader String := fun c =>
  match c.rest with
  | '"' :: '"' :: '"' :: _ =>
    let inside := skipLineEnd (c.advance 3)
    finish (readLines inside.place false inside.rest)
  | '\'' :: '\'' :: '\'' :: _ =>
    let inside := skipLineEnd (c.advance 3)
    finish (readRawLines inside.place inside.rest)
  | _ => ofLine c

end RegistryProxy.Toml.Quoted
