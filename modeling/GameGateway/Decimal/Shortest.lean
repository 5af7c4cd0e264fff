import GameGateway.Decimal.Digits

/-!
# The shortest decimal of a double

A finite double stands for the interval of numbers that round to it. Its **shortest decimal** has
the fewest digits of all decimals in that interval, and of those with as few it is the one
nearest to the double itself; of two equally near ones the even one.

`Dyadic` is the exact value of a positive double, `Dyadic.shortest` its shortest decimal. All
comparisons are between natural numbers.
-/

namespace GameGateway.Decimal

/-- A positive number `mantissa · 2 ^ exponent`, as a double holds it. -/
structure Dyadic where
  mantissa : Nat
  exponent : Int
  /-- The double below is half as far as the one above. -/
  narrowBelow : Bool
  deriving DecidableEq, Repr

/-- A positive decimal `digits · 10 ^ exponent`. -/
structure Digits where
  digits : Nat
  exponent : Int
  deriving DecidableEq, Repr

/-- The value of a positive finite double. -/
def Dyadic.ofFloat (x : Float) : Dyadic :=
  let bits := x.toBits.toNat
  let fraction : Nat := bits % (1 <<< 52)
  let biased : Nat := (bits >>> 52) % (1 <<< 11)
  if biased = 0 then ⟨fraction, -1074, false⟩
  else ⟨(1 <<< 52) + fraction, (biased : Int) - 1075, fraction = 0 && 1 < biased⟩

/-- The bounds of the interval that rounds to a double, and the double itself, as numerators
over one denominator. -/
structure Interval where
  low : Nat
  value : Nat
  high : Nat
  denominator : Nat
  /-- Whether the bounds themselves round to the double. -/
  closed : Bool

/-- The interval of the numbers that round to a double. -/
def Dyadic.interval (d : Dyadic) : Interval :=
  -- Four times the value, so that the bounds are whole numbers too.
  let scale := 1 <<< d.exponent.toNat
  { low := (4 * d.mantissa - if d.narrowBelow then 1 else 2) * scale
    value := 4 * d.mantissa * scale
    high := (4 * d.mantissa + 2) * scale
    denominator := 4 <<< (-d.exponent).toNat
    closed := d.mantissa % 2 = 0 }

/-- The number of decimal digits of a number, one for 0. -/
def countDigits (n : Nat) : Nat :=
  (Nat.toDigits 10 n).length

/-- The exponent of the first digit of `value / denominator`: the greatest `e` with
`10 ^ e ≤ value / denominator`. -/
def Interval.leading (i : Interval) : Int :=
  if i.denominator ≤ i.value then (countDigits (i.value / i.denominator) : Int) - 1
  else -(countDigits ((i.denominator + i.value - 1) / i.value - 1) : Int)

/-- Whether `digits · 10 ^ exponent` lies in the interval. -/
def Interval.contains (i : Interval) (d : Digits) : Bool :=
  let scaled := d.digits * tenPow d.exponent.toNat * i.denominator
  let unit := tenPow (-d.exponent).toNat
  if i.closed then i.low * unit ≤ scaled && scaled ≤ i.high * unit
  else i.low * unit < scaled && scaled < i.high * unit

/-- The decimal of the interval on the grid `10 ^ exponent` that is nearest to the value. -/
def Interval.onGrid (i : Interval) (exponent : Int) : Option Digits :=
  let numerator := i.value * tenPow (-exponent).toNat
  let denominator := i.denominator * tenPow exponent.toNat
  let below := numerator / denominator
  let twice := 2 * (numerator % denominator)
  -- The nearer neighbour comes first, and the even one of two that are equally near.
  let upFirst := denominator < twice || twice = denominator && below % 2 = 1
  let candidates : List Digits :=
    if upFirst then [⟨below + 1, exponent⟩, ⟨below, exponent⟩]
    else [⟨below, exponent⟩, ⟨below + 1, exponent⟩]
  candidates.find? i.contains

/-- The shortest decimal of a double: the first of the grids of 1, 2, … 17 digits that meets the
interval gives it. -/
def Dyadic.shortest (d : Dyadic) : Digits :=
  let i := d.interval
  let leading := i.leading
  ((List.range 17).findSome? fun (n : Nat) => i.onGrid (leading - n)).getD ⟨d.mantissa, 0⟩

/-- The digits of a decimal without closing zeros, and the exponent of the first one. -/
def Digits.significant (d : Digits) : List Char × Int :=
  let all := Nat.toDigits 10 d.digits
  ((all.reverse.dropWhile (· == '0')).reverse, d.exponent + all.length - 1)

end GameGateway.Decimal
