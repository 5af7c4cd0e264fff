/-!
# Sortable 128-bit identifiers

A **ULID** is a number of 128 bits: 48 bits of milliseconds since 1970, then 80 random bits.
It is written in 26 base 32 digits, most significant first. The digits are those of Crockford:
the decimal digits and the capital letters without I, L, O and U. Reading takes small letters
too, and drops the two bits by which 26 digits exceed 128 bits.

`Ulid.digits` is the written form and `Ulid.ofDigits?` reads it.
-/

namespace GameGateway

/-- A **sortable identifier** of 128 bits. -/
structure Ulid where
  toFin : Fin (1 <<< 128)
  deriving DecidableEq, Repr

namespace Ulid

/-- The identifier as a number. -/
def toNat (u : Ulid) : Nat := u.toFin.val

/-- The identifier whose bits are the low 128 bits of `n`. -/
def ofNat (n : Nat) : Ulid := ⟨Fin.ofNat (1 <<< 128) n⟩

instance : LT Ulid := ⟨fun a b => a.toNat < b.toNat⟩
instance : LE Ulid := ⟨fun a b => a.toNat ≤ b.toNat⟩
instance (a b : Ulid) : Decidable (a < b) := inferInstanceAs (Decidable (a.toNat < b.toNat))
instance (a b : Ulid) : Decidable (a ≤ b) := inferInstanceAs (Decidable (a.toNat ≤ b.toNat))

/-- The identifier of a moment, in milliseconds since 1970, with a random part. -/
def ofParts (millis random : Nat) : Ulid :=
  ofNat (((millis % (1 <<< 48)) <<< 80) + random % (1 <<< 80))

/-! ### Digits -/

/-- The digits of base 32, in order. -/
def alphabet : List Char :=
  "0123456789ABCDEFGHJKMNPQRSTVWXYZ".toList

/-- The digit of a value below 32. -/
def digit (value : Nat) : Char :=
  alphabet.getD value '0'

/-- The value of a digit, small letters included. -/
def digitValue? (c : Char) : Option Nat :=
  alphabet.findIdx? (· == c.toUpper)

/-- The number of digits of an identifier. -/
def length : Nat := 26

/-- The last `count` digits of a number in base 32, most significant first. -/
def digitsOf : (count : Nat) → (n : Nat) → List Char
  | 0, _ => []
  | count + 1, n => digitsOf count (n / 32) ++ [digit (n % 32)]

/-- The 26 digits of an identifier. -/
def digits (u : Ulid) : List Char :=
  digitsOf length u.toNat

/-- The text of an identifier. -/
protected def toString (u : Ulid) : String :=
  String.ofList u.digits

instance : ToString Ulid := ⟨Ulid.toString⟩

/-- Why a text is not an identifier. -/
inductive ParseError where
  | length
  | character
  deriving DecidableEq, Repr

/-- The message of a parse error. -/
def ParseError.message : ParseError → String
  | .length => "invalid length"
  | .character => "invalid character"

/-- The number that base 32 digits write, if they are all digits. -/
def valueOf? (cs : List Char) : Option Nat :=
  cs.foldlM (fun n c => (digitValue? c).map (n * 32 + ·)) 0

/-- Reads an identifier: its length is counted in bytes, and told before its characters. -/
def ofDigits (s : String) : Except ParseError Ulid :=
  if s.utf8ByteSize ≠ length then .error .length
  else
    match valueOf? s.toList with
    | some n => .ok (ofNat n)
    | none => .error .character

end Ulid

end GameGateway
