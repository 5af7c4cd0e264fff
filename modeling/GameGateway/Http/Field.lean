import GameGateway.Text.Blank
import GameGateway.Wire.Handshake

/-!
# Header fields

The **fields** of a message are names with values; names are in lower case, and one name may have
several values, whose order counts. A value is made of bytes. Where a text is wanted of it, `text?`
takes printable ASCII only, and `utf8?` any UTF-8.
-/

namespace GameGateway.Http

open Wire (Byte)

/-! ### ASCII -/

/-- The byte of an ASCII character. -/
def asciiByte (c : Char) : Byte := UInt8.ofNat c.toNat

/-- The bytes of a text of ASCII. -/
def asciiBytes (text : String) : List Byte := text.toList.map asciiByte

/-- The text of bytes of ASCII. -/
def asciiText (bytes : List Byte) : String :=
  String.ofList (bytes.map fun b => Char.ofNat b.toNat)

/-- The bytes that end a line. -/
def lineBreak : List Byte := [0x0d, 0x0a]

/-! ### One field -/

/-- A **field** of a message. -/
structure Field where
  /-- The name in lower case. -/
  name : String
  value : List Byte
  deriving DecidableEq, Repr

namespace Field

/-- A byte that may stand in the text of a value: printable ASCII, a blank or a tab. -/
def isTextByte (b : Byte) : Bool :=
  (0x20 ≤ b && b ≤ 0x7e) || b = 0x09

/-- The text of a value that is printable. -/
def text? (value : List Byte) : Option String :=
  if value.all isTextByte then some (asciiText value) else none

/-- The text of a value that is UTF-8. -/
def utf8? (value : List Byte) : Option String :=
  Wire.Handshake.text? value

end Field

/-- The items of a list that commas part, without the blanks around them. -/
def listItems (text : String) : List String :=
  (text.splitOn ",").map trimBlank

/-! ### All fields -/

/-- The **fields** of a message, in order. -/
abbrev Fields := List Field

namespace Fields

variable (fs : Fields)

/-- The values of a name, in order. -/
def values (name : String) : List (List Byte) :=
  (fs.filter (·.name = name)).map (·.value)

/-- The first value of a name. -/
def value? (name : String) : Option (List Byte) :=
  (fs.values name).head?

/-- The last value of a name. -/
def lastValue? (name : String) : Option (List Byte) :=
  (fs.values name).getLast?

/-- The items of all printable values of a name, in order. -/
def items (name : String) : List String :=
  ((fs.values name).filterMap Field.text?).flatMap listItems

/-- Removes the fields whose names satisfy `p`. -/
def removeWhere (p : String → Bool) : Fields :=
  fs.filter fun f => !p f.name

/-- Gives a name one value: where it first had one, or else behind the other fields. -/
def set (name : String) (value : List Byte) : Fields → Fields
  | [] => [⟨name, value⟩]
  | f :: rest =>
    if f.name = name then ⟨name, value⟩ :: rest.filter (·.name ≠ name)
    else f :: set name value rest

/-- The lines of the fields, and the empty line behind them. -/
def write : List Byte :=
  (fs.flatMap fun f => asciiBytes (f.name ++ ": ") ++ f.value ++ lineBreak) ++ lineBreak

section Lemmas

variable {fs : Fields} {n name : String} {v : List Byte} {p : String → Bool}

/-- Removing fields takes all values of a name, or none. -/
theorem values_removeWhere :
    (fs.removeWhere p).values n = if p n then [] else fs.values n := by
  simp only [values, removeWhere, List.filter_filter]
  split
  · next h =>
    rw [List.filter_eq_nil_iff.2, List.map_nil]
    rintro f - hf
    simp only [Bool.and_eq_true, decide_eq_true_eq, Bool.not_eq_true'] at hf
    rw [hf.1, h] at hf
    exact Bool.noConfusion hf.2
  · next h =>
    congr 1
    refine List.filter_congr fun f _ => ?_
    by_cases hf : f.name = n
    · simp [hf, h]
    · simp [hf]

/-- A name that is set has one value, however many it had. -/
theorem values_set_self : (set name v fs).values name = [v] := by
  induction fs with
  | nil => simp [set, values]
  | cons f rest ih =>
    rw [set]
    split
    · simp [values, List.filter_filter]
    · next h => simpa [values, h] using ih

theorem values_set_of_ne (h : name ≠ n) : (set name v fs).values n = fs.values n := by
  induction fs with
  | nil => simp [set, values, h]
  | cons f rest ih =>
    rw [set]
    split
    · next hf =>
      have hrest : ∀ g ∈ rest, (decide (g.name = n) && !decide (g.name = name)) =
          decide (g.name = n) := by
        intro g _
        by_cases hg : g.name = n
        · simp [hg, Ne.symm h]
        · simp [hg]
      simp [values, h, hf, List.filter_congr hrest]
    · simp only [values, List.filter_cons] at ih ⊢
      split <;> simp [ih]

end Lemmas

end Fields

end GameGateway.Http
