import RegistryProxy.Json.Parser

/-!
# Proofs/Json/Grammar — what a document looks like, byte by byte

`Spelled depth t bytes` says that the bytes are a way to write the tree `t`, and `Row` that they are
the entries between two brackets; both say nothing of how they are read.  Each entry of a row comes
with the bytes of its name as they are written (`Label`), for a name can be written in many ways.
-/

namespace RegistryProxy.Json

/-! ## Tokens -/

/-- Bytes that may stand between tokens. -/
def Blank (bytes : Bytes) : Prop := ∀ b ∈ bytes, isSpace b = true

/-- Some decimal digits, at least one. -/
def Digits (bytes : Bytes) : Prop := bytes ≠ [] ∧ ∀ b ∈ bytes, isDigit b = true

/-- **The bytes between two quotes** and the pieces that they stand for. -/
inductive Quoted : List Piece → Bytes → Prop
  | nil : Quoted [] []
  | byte {b : UInt8} {pieces : List Piece} {bytes : Bytes} (printed : 0x20 ≤ b)
    (quote : b ≠ 0x22) (slash : b ≠ 0x5c) (rest : Quoted pieces bytes) :
    Quoted (.byte b :: pieces) (b :: bytes)
  | escape {b value : UInt8} {pieces : List Piece} {bytes : Bytes}
    (short : shortEscape b = some value) (rest : Quoted pieces bytes) :
    Quoted (.byte value :: pieces) (0x5c :: b :: bytes)
  | unit {a b c d : UInt8} {code : Nat} {pieces : List Piece} {bytes : Bytes}
    (hex : hexCode a b c d = some code) (rest : Quoted pieces bytes) :
    Quoted (.unit code :: pieces) (0x5c :: 0x75 :: a :: b :: c :: d :: bytes)

/-- The digits behind the point of a number, if there is one. -/
inductive FractionSpelled : Option (List Nat) → Bytes → Prop
  | none : FractionSpelled none []
  | some {digits : Bytes} (digits_digits : Digits digits) :
    FractionSpelled (some (digits.map digitValue)) (0x2e :: digits)

/-- The sign of an exponent: true for minus. -/
inductive SignSpelled : Bool → Bytes → Prop
  | none : SignSpelled false []
  | plus : SignSpelled false [0x2b]
  | minus : SignSpelled true [0x2d]

/-- The exponent of a number, if there is one. -/
inductive PowerSpelled : Option (Bool × List Nat) → Bytes → Prop
  | none : PowerSpelled none []
  | some {letter : UInt8} {minus : Bool} {sign digits : Bytes}
    (letter_eq : letter = 0x65 ∨ letter = 0x45) (sign_sign : SignSpelled minus sign)
    (digits_digits : Digits digits) :
    PowerSpelled (some (minus, digits.map digitValue)) (letter :: (sign ++ digits))

/-- A number; a zero in front stands alone. -/
inductive NumeralSpelled : Numeral → Bytes → Prop
  | mk {negative : Bool} {whole fraction power : Bytes} {places : Option (List Nat)}
    {exponent : Option (Bool × List Nat)} (whole_digits : Digits whole)
    (whole_zero : (whole.map digitValue).head? ≠ some 0 ∨ whole.length = 1)
    (fraction_spelled : FractionSpelled places fraction)
    (power_spelled : PowerSpelled exponent power) :
    NumeralSpelled { negative, whole := whole.map digitValue, fraction := places, exponent }
      ((if negative then [0x2d] else []) ++ (whole ++ (fraction ++ power)))

/-- The name of a member as it is written, with the quotes and the colon; an item has none. -/
inductive Label : Bool → Bytes → Bytes → Prop
  | item : Label false [] []
  | member {name before after : Bytes} {pieces : List Piece} (before_blank : Blank before)
    (name_quoted : Quoted pieces name) (after_blank : Blank after) :
    Label true name (before ++ 0x22 :: (name ++ 0x22 :: (after ++ [0x3a])))

/-- The text of a name that is written like this. -/
def nameText (name : Bytes) : Option String :=
  readPieces (name ++ [0x22]) >>= fun x => pieceText x.1

/-- The comma in front of every entry but the first. -/
def separator (first : Bool) : Bytes := if first then [] else [0x2c]

/-! ## Values -/

namespace Tree

/-- A text as a tree, without a value when it stands for none. -/
def ofPieces (pieces : List Piece) : Tree := ((pieceText pieces).map Tree.string).getD .meaningless

/-- A number as a tree, without a value beyond every double. -/
def ofNumeral (n : Numeral) : Tree := (n.value?.map Tree.number).getD .meaningless

/-- The items of a row. -/
def ofItems (entries : List (Bytes × Tree)) : Tree := .array (entries.map Prod.snd)

/-- The members of a row. -/
def ofMembers (entries : List (Bytes × Tree)) : Tree :=
  .object (entries.map fun e => (nameText e.1, e.2))

end Tree

mutual

/-- **The bytes are a way to write a tree**, in which containers nested deeper than `depth` have no
value. -/
inductive Spelled : Nat → Tree → Bytes → Prop
  | null {depth : Nat} : Spelled depth .null [0x6e, 0x75, 0x6c, 0x6c]
  | yes {depth : Nat} : Spelled depth (.bool true) [0x74, 0x72, 0x75, 0x65]
  | no {depth : Nat} : Spelled depth (.bool false) [0x66, 0x61, 0x6c, 0x73, 0x65]
  | number {depth : Nat} {n : Numeral} {bytes : Bytes} (numeral : NumeralSpelled n bytes) :
    Spelled depth (.ofNumeral n) bytes
  | text {depth : Nat} {pieces : List Piece} {bytes : Bytes} (quoted : Quoted pieces bytes) :
    Spelled depth (.ofPieces pieces) (0x22 :: (bytes ++ [0x22]))
  | array {depth : Nat} {entries : List (Bytes × Tree)} {bytes : Bytes}
    (row : Row false (depth - 1) true entries bytes) :
    Spelled depth (.within depth (.ofItems entries)) (0x5b :: (bytes ++ [0x5d]))
  | object {depth : Nat} {entries : List (Bytes × Tree)} {bytes : Bytes}
    (row : Row true (depth - 1) true entries bytes) :
    Spelled depth (.within depth (.ofMembers entries)) (0x7b :: (bytes ++ [0x7d]))

/-- **The bytes are entries with commas between them**, each as its name and its tree; `named` tells
members from items, and `first` that no comma stands in front. -/
inductive Row : Bool → Nat → Bool → List (Bytes × Tree) → Bytes → Prop
  | nil {named first : Bool} {depth : Nat} {blank : Bytes} (blank_blank : Blank blank) :
    Row named depth first [] blank
  | cons {named first : Bool} {depth : Nat} {name before label gap value more : Bytes} {t : Tree}
    {entries : List (Bytes × Tree)} (before_blank : Blank before)
    (labelled : Label named name label) (gap_blank : Blank gap) (spelled : Spelled depth t value)
    (rest : Row named depth false entries more) :
    Row named depth first ((name, t) :: entries)
      (before ++ (separator first ++ (label ++ (gap ++ (value ++ more)))))

end

/-! ## Small facts -/

theorem blank_nil : Blank [] := nofun

/-- Spaces behind spaces are spaces. -/
theorem Blank.append {a b : Bytes} (ha : Blank a) (hb : Blank b) : Blank (a ++ b) := by
  intro x hx
  rcases List.mem_append.1 hx with hx | hx
  · exact ha x hx
  · exact hb x hx

end RegistryProxy.Json
