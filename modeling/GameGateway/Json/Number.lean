import GameGateway.Decimal.Digits
import GameGateway.Decimal.Shortest

/-!
# Numbers in JSON texts

A **numeral** is a number as it is written. Its value is an integer when it is written as one and
fits 64 bits, and a double otherwise. A double is made from at most 64 bits of digits, further
digits only shift it, by one multiplication or division by a power of ten; a numeral beyond the
doubles has no value.
-/

namespace GameGateway.Json

open Decimal

/-- A number as it is written, digit by digit. -/
structure Numeral where
  negative : Bool
  whole : List Char
  fraction : Option (List Char)
  /-- The exponent's digits, and whether a minus stands in front of them. -/
  exponent : Option (Bool × List Char)
  deriving DecidableEq, Repr

/-- The **value** of a numeral. Of a double only the text matters, for the reader's messages. -/
inductive Number where
  | integer (value : Int)
  | double (text : String)
  deriving DecidableEq, Repr

/-! ### Doubles -/

/-- Takes digits into a number as long as it stays below `bound`; also tells how many were
taken. -/
def takeDigits (bound : Nat) (n : Nat) : List Char → Nat × Nat
  | [] => (n, 0)
  | c :: rest =>
    if n * 10 + digitValue c < bound then
      let (m, taken) := takeDigits bound (n * 10 + digitValue c) rest
      (m, taken + 1)
    else (n, 0)

/-- A power of ten. -/
def powerOfTen (k : Nat) : Float :=
  Float.ofScientific 1 false k

/-- Divides by `10 ^ k`, by at most `10 ^ 308` at a time. -/
def divideByPower (x : Float) (k : Nat) : Float :=
  if k ≤ 308 then x / powerOfTen k
  else if x == 0 then x
  else divideByPower (x / powerOfTen 308) (k - 308)
termination_by k

/-- The double of `significand · 10 ^ exponent`, if it is finite. -/
def scaled? (significand : Nat) (exponent : Int) : Option Float :=
  let x := (UInt64.ofNat significand).toFloat
  if exponent < 0 then some (divideByPower x exponent.natAbs)
  else if exponent ≤ 308 then
    let y := x * powerOfTen exponent.toNat
    if y.isInf then none else some y
  else if significand = 0 then some x
  else none

/-- The exponent that a numeral writes, if it fits 32 bits. -/
def exponent? (negative : Bool) (digits : List Char) : Option Int :=
  let n := natOfDigits digits
  if n ≤ Int32.maxValue.toInt then some (if negative then -n else n) else none

/-- The absolute value of a numeral as a double, if it is finite. -/
def Numeral.magnitude? (n : Numeral) : Option Float :=
  let (significand, taken) := takeDigits UInt64.size 0 n.whole
  let dropped := n.whole.length - taken
  let (significand, taken) := takeDigits UInt64.size significand (n.fraction.getD [])
  let shift : Int := dropped - taken
  match n.exponent with
  | none => scaled? significand shift
  | some (negative, digits) =>
    match exponent? negative digits with
    | some e => scaled? significand (shift + e)
    | none => if significand = 0 || negative then some 0 else none

/-! ### The text of a double -/

/-- How doubles are written: positional from `10 ^ lowest` up to below `10 ^ (highest + 1)`, and
with an exponent elsewhere. -/
structure DoubleFormat where
  lowest : Int
  highest : Int

/-- The format of doubles in messages. -/
def doubleFormat : DoubleFormat := ⟨-5, 15⟩

/-- The digits `ds` with the exponent `e` of the first one. -/
def DoubleFormat.write (f : DoubleFormat) (ds : List Char) (e : Int) : List Char :=
  if f.lowest ≤ e ∧ e ≤ f.highest then
    if e < 0 then '0' :: '.' :: List.replicate ((-e).toNat - 1) '0' ++ ds
    else
      let whole := e.toNat + 1
      if ds.length ≤ whole then ds ++ List.replicate (whole - ds.length) '0' ++ ['.', '0']
      else ds.take whole ++ '.' :: ds.drop whole
  else
    let tail := if ds.length ≤ 1 then [] else '.' :: ds.drop 1
    ds.take 1 ++ tail ++ 'e' :: (if e < 0 then '-' else '+') :: padDigits 1 e.natAbs

/-- The text of a finite double that is not negative. -/
def magnitudeText (x : Float) : List Char :=
  if x == 0 then ['0', '.', '0']
  else
    let (digits, e) := (Dyadic.ofFloat x).shortest.significant
    doubleFormat.write digits e

/-! ### Values -/

/-- The integer that a numeral writes, if it is written as one and fits 64 bits, signed if it is
negative and unsigned otherwise; negative zero is none. -/
def Numeral.integer? (n : Numeral) : Option Int :=
  if n.fraction.isSome || n.exponent.isSome then none
  else
    let m := natOfDigits n.whole
    if n.negative then if 0 < m ∧ Int64.minValue.toInt ≤ -m then some (-m) else none
    else if m < UInt64.size then some m else none

/-- The value of a numeral, if it is in range. -/
def Numeral.value? (n : Numeral) : Option Number :=
  match n.integer? with
  | some i => some (.integer i)
  | none =>
    n.magnitude?.map fun x =>
      .double (String.ofList (if n.negative then '-' :: magnitudeText x else magnitudeText x))

end GameGateway.Json
