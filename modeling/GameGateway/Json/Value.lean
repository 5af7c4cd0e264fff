/-!
# JSON values and their texts

The JSON **values** that records are written as: their numbers are integers, and the members of an
object keep their order. `Value.compact` writes a value without any white space, `Value.pretty` on
indented lines; both leave every character as it is that JSON allows to stand for itself.
-/

namespace GameGateway.Json

/-- A JSON **value** as it is written. -/
inductive Value where
  | null
  | bool (value : Bool)
  | integer (value : Int)
  | string (text : String)
  | array (items : List Value)
  | object (members : List (String × Value))
  deriving Repr, Inhabited

/-! ### Scalars -/

/-- A character within a string. -/
def writeChar (c : Char) : List Char :=
  match c with
  | '"' => ['\\', '"']
  | '\\' => ['\\', '\\']
  | '\x08' => ['\\', 'b']
  | '\x0c' => ['\\', 'f']
  | '\n' => ['\\', 'n']
  | '\r' => ['\\', 'r']
  | '\t' => ['\\', 't']
  | c =>
    if c.toNat < 0x20 then
      ['\\', 'u', '0', '0', Nat.digitChar (c.toNat / 16), Nat.digitChar (c.toNat % 16)]
    else [c]

/-- A string between quotes. -/
def writeString (s : String) : List Char :=
  '"' :: s.toList.flatMap writeChar ++ ['"']

/-- An integer in decimal digits. -/
def writeInteger (n : Int) : List Char :=
  if n < 0 then '-' :: Nat.toDigits 10 n.natAbs else Nat.toDigits 10 n.natAbs

/-- A truth value. -/
def writeBool (b : Bool) : List Char :=
  if b then "true".toList else "false".toList

namespace Value

/-! ### Compact text -/

mutual

/-- The characters of a value without white space. -/
def chars : Value → List Char
  | .null => "null".toList
  | .bool value => writeBool value
  | .integer value => writeInteger value
  | .string text => writeString text
  | .array [] => ['[', ']']
  | .array (v :: rest) => '[' :: v.chars ++ itemChars rest ++ [']']
  | .object [] => ['\x7b', '\x7d']
  | .object ((key, v) :: rest) =>
    '\x7b' :: writeString key ++ ':' :: v.chars ++ memberChars rest ++ ['\x7d']

/-- The characters of the items behind the first. -/
def itemChars : List Value → List Char
  | [] => []
  | v :: rest => ',' :: v.chars ++ itemChars rest

/-- The characters of the members behind the first. -/
def memberChars : List (String × Value) → List Char
  | [] => []
  | (key, v) :: rest => ',' :: writeString key ++ ':' :: v.chars ++ memberChars rest

end

/-- The compact text of a value. -/
def compact (v : Value) : String :=
  String.ofList v.chars

/-! ### Indented text -/

/-- A new line within containers that are nested `level` deep. -/
def newLine (level : Nat) : List Char :=
  '\n' :: List.replicate (2 * level) ' '

mutual

/-- The characters of a value on indented lines. -/
def prettyChars (level : Nat) : Value → List Char
  | .null => "null".toList
  | .bool value => writeBool value
  | .integer value => writeInteger value
  | .string text => writeString text
  | .array [] => ['[', ']']
  | .array (v :: rest) =>
    '[' :: newLine (level + 1) ++ v.prettyChars (level + 1) ++ prettyItems (level + 1) rest ++
      newLine level ++ [']']
  | .object [] => ['\x7b', '\x7d']
  | .object ((key, v) :: rest) =>
    '\x7b' :: newLine (level + 1) ++ writeString key ++ ':' :: ' ' :: v.prettyChars (level + 1) ++
      prettyMembers (level + 1) rest ++ newLine level ++ ['\x7d']

/-- The characters of the items behind the first. -/
def prettyItems (level : Nat) : List Value → List Char
  | [] => []
  | v :: rest => ',' :: newLine level ++ v.prettyChars level ++ prettyItems level rest

/-- The characters of the members behind the first. -/
def prettyMembers (level : Nat) : List (String × Value) → List Char
  | [] => []
  | (key, v) :: rest =>
    ',' :: newLine level ++ writeString key ++ ':' :: ' ' :: v.prettyChars level ++
      prettyMembers level rest

end

/-- The text of a value on indented lines. -/
def pretty (v : Value) : String :=
  String.ofList (v.prettyChars 0)

/-- A value that may be absent, written as `null` then. -/
def ofOption {α : Type} (write : α → Value) : Option α → Value
  | none => .null
  | some a => write a

/-- An identifier or another thing that is written as its text. -/
def ofText {α : Type} [ToString α] (a : α) : Value :=
  .string (toString a)

end Value

end GameGateway.Json
