import GameGateway.Decimal.Digits

/-!
# Reading bounded numbers

Settings hold natural numbers below a bound, in decimal digits and possibly behind a plus sign.
`parseBelow` reads one, and tells why a text is none: what is wrong first from left to right.
-/

namespace GameGateway.Decimal

/-- The cause for which a text is **no number** below a bound. -/
inductive NumberError where
  | empty
  | invalidDigit
  | tooLarge
  deriving DecidableEq, Repr

/-- The message of an error. -/
def NumberError.message : NumberError → String
  | .empty => "cannot parse integer from empty string"
  | .invalidDigit => "invalid digit found in string"
  | .tooLarge => "number too large to fit in target type"

/-- Reads further digits of a number whose digits so far are `n`. -/
def digitsBelow (bound n : Nat) : List Char → Except NumberError Nat
  | [] => .ok n
  | c :: rest =>
    if !c.isDigit then .error .invalidDigit
    else
      let n := n * 10 + digitValue c
      if bound ≤ n then .error .tooLarge else digitsBelow bound n rest

/-- Reads a number below a bound. -/
def parseBelow (bound : Nat) (s : String) : Except NumberError Nat :=
  match s.toList with
  | [] => .error .empty
  | ['+'] => .error .invalidDigit
  | '+' :: digits => digitsBelow bound 0 digits
  | digits => digitsBelow bound 0 digits

end GameGateway.Decimal
