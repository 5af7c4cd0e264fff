/-!
# Decimal digits

Natural numbers and the characters that write them: the number of a list of digits, the digits of
a number filled up with zeros to a width, and the digits at the front of a text.
-/

namespace GameGateway.Decimal

/-- The value of a decimal digit. -/
def digitValue (c : Char) : Nat :=
  c.toNat - '0'.toNat

/-- The number that decimal digits write. -/
def natOfDigits (digits : List Char) : Nat :=
  digits.foldl (fun n c => n * 10 + digitValue c) 0

/-- A power of ten. -/
def tenPow (n : Nat) : Nat :=
  Nat.pow 10 n

/-- Pads digits with zeros in front. -/
def padDigits (width : Nat) (n : Nat) : List Char :=
  let digits := Nat.toDigits 10 n
  List.replicate (width - digits.length) '0' ++ digits

/-- The digits at the front, and what follows them. -/
def spanDigits (s : List Char) : List Char × List Char :=
  (s.takeWhile Char.isDigit, s.dropWhile Char.isDigit)

end GameGateway.Decimal
