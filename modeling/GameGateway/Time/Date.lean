/-!
# Calendar dates

Dates of the proleptic Gregorian calendar, with as many years as 32 bits minus a year's worth of
days hold: `Date.minYear` to `Date.maxYear`. A date is found valid by the length of its month; the
neighbouring days `next` and `prev` are all the arithmetic that a shift by less than a day needs.
-/

namespace GameGateway.Time

/-- A day of the calendar. -/
structure Date where
  year : Int
  month : Nat
  day : Nat
  deriving DecidableEq, Repr

/-- Every fourth year is a **leap year**, of the hundreds only every fourth. -/
def isLeap (year : Int) : Bool :=
  year % 4 = 0 && (year % 100 ≠ 0 || year % 400 = 0)

/-- The number of days of a month, 0 for what is no month. -/
def daysIn (year : Int) : (month : Nat) → Nat
  | 1 | 3 | 5 | 7 | 8 | 10 | 12 => 31
  | 4 | 6 | 9 | 11 => 30
  | 2 => if isLeap year then 29 else 28
  | _ => 0

namespace Date

/-- The first year that is represented. -/
def minYear : Int := -262143

/-- The last year that is represented. -/
def maxYear : Int := 262142

/-- A date is **valid** when its month has its day and its year is represented. -/
def Valid (d : Date) : Prop :=
  minYear ≤ d.year ∧ d.year ≤ maxYear ∧ 1 ≤ d.day ∧ d.day ≤ daysIn d.year d.month

instance (d : Date) : Decidable d.Valid := inferInstanceAs (Decidable (_ ∧ _ ∧ _ ∧ _))

/-- The day after. -/
def next (d : Date) : Date :=
  if d.day < daysIn d.year d.month then { d with day := d.day + 1 }
  else if d.month < 12 then ⟨d.year, d.month + 1, 1⟩
  else ⟨d.year + 1, 1, 1⟩

/-- The day before. -/
def prev (d : Date) : Date :=
  if 1 < d.day then { d with day := d.day - 1 }
  else if 1 < d.month then ⟨d.year, d.month - 1, daysIn d.year (d.month - 1)⟩
  else ⟨d.year - 1, 12, 31⟩

end Date

end GameGateway.Time
