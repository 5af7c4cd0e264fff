import GameGateway.Decimal.Digits
import GameGateway.Text.Blank
import GameGateway.Time.Date

/-!
# Moments and their RFC 3339 text

A **timestamp** is a moment in UTC to the nanosecond. It is written as RFC 3339 says, with no, 3, 6
or 9 digits of a second's fraction, whichever are the fewest that lose nothing, and `Z`.

Reading is more lenient than writing: it takes any offset, a blank for the `T`, small letters,
blanks around the parts, and years with a sign and any number of digits. The first character that
cannot stand where it stands decides on the error.
-/

namespace GameGateway.Time

open Decimal

/-- A **moment** in UTC. A leap second is the 59th second with a fraction of a whole second or
more. -/
structure Timestamp where
  date : Date
  hour : Nat
  minute : Nat
  second : Nat
  nano : Nat
  deriving DecidableEq, Repr

namespace Timestamp

/-- A timestamp is **valid** when its date is and its parts are in their ranges. -/
def Valid (t : Timestamp) : Prop :=
  t.date.Valid ∧ t.hour < 24 ∧ t.minute < 60 ∧ t.second < 60 ∧
    t.nano < (if t.second = 59 then 2000000000 else 1000000000)

instance (t : Timestamp) : Decidable t.Valid := inferInstanceAs (Decidable (_ ∧ _ ∧ _ ∧ _ ∧ _))

/-- The moment at which clocks show `t` that are `offset` minutes ahead of UTC, for an offset of
less than a day. -/
def fromLocal (t : Timestamp) (offset : Int) : Timestamp :=
  let minutes : Int := t.hour * 60 + t.minute - offset
  let date :=
    if minutes < 0 then t.date.prev else if 24 * 60 ≤ minutes then t.date.next else t.date
  let ofDay := (minutes % (24 * 60)).toNat
  { t with date, hour := ofDay / 60, minute := ofDay % 60 }

/-! ### Writing -/

/-- A year: four digits, with a sign if these do not suffice. -/
def writeYear (year : Int) : List Char :=
  if 0 ≤ year ∧ year ≤ 9999 then padDigits 4 year.toNat
  else (if year < 0 then '-' else '+') :: padDigits 4 year.natAbs

/-- The fraction of a second: no, 3, 6 or 9 digits. -/
def writeFraction (nano : Nat) : List Char :=
  if nano = 0 then []
  else if nano % 1000000 = 0 then '.' :: padDigits 3 (nano / 1000000)
  else if nano % 1000 = 0 then '.' :: padDigits 6 (nano / 1000)
  else '.' :: padDigits 9 nano

/-- The characters of a timestamp. -/
def chars (t : Timestamp) : List Char :=
  let leap := 1000000000 ≤ t.nano
  writeYear t.date.year ++ '-' :: padDigits 2 t.date.month ++ '-' :: padDigits 2 t.date.day ++
    'T' :: padDigits 2 t.hour ++ ':' :: padDigits 2 t.minute ++
    ':' :: padDigits 2 (if leap then t.second + 1 else t.second) ++
    writeFraction (if leap then t.nano - 1000000000 else t.nano) ++ ['Z']

/-- The RFC 3339 text of a timestamp. -/
protected def toString (t : Timestamp) : String :=
  String.ofList t.chars

instance : ToString Timestamp := ⟨Timestamp.toString⟩

/-! ### Reading -/

/-- Why a text is not a moment. -/
inductive ParseError where
  | tooShort
  | tooLong
  | invalid
  | outOfRange
  | impossible
  deriving DecidableEq, Repr

/-- The message of a parse error. -/
def ParseError.message : ParseError → String
  | .tooShort => "premature end of input"
  | .tooLong => "trailing input"
  | .invalid => "input contains invalid characters"
  | .outOfRange => "input is out of range"
  | .impossible => "no possible date and time matching input"

/-- A step that reads something off the front of a text. -/
abbrev Scan (α : Type) := List Char → Except ParseError (α × List Char)

/-- Reads a number of one up to `most` digits, where a number is 64 bits at most. -/
def scanNumber (most : Nat) : Scan Nat := fun s =>
  match s with
  | [] => .error .tooShort
  | s =>
    let digits := (spanDigits s).1.take most
    if digits.isEmpty then .error .invalid
    else if Int64.maxValue.toInt < natOfDigits digits then .error .outOfRange
    else .ok (natOfDigits digits, s.drop digits.length)

/-- Reads a number of one or two digits between two bounds, behind blanks. -/
def scanField (low high : Nat) : Scan Nat := fun s => do
  let (n, s) ← scanNumber 2 (Text.trimStart s)
  if low ≤ n ∧ n ≤ high then return (n, s) else throw .outOfRange

/-- Reads one given character. -/
def scanChar (c : Char) : Scan Unit
  | [] => .error .tooShort
  | d :: s => if d = c then .ok ((), s) else .error .invalid

/-- Reads a year: up to four digits, or any number of them behind a sign. -/
def scanYear : Scan Int := fun s => do
  let s := Text.trimStart s
  let (year, s) ← match s with
    | '-' :: s => do
      let (n, s) ← scanNumber s.length s
      pure (-(n : Int), s)
    | '+' :: s => do
      let (n, s) ← scanNumber s.length s
      pure ((n : Int), s)
    | s => do
      let (n, s) ← scanNumber 4 s
      pure ((n : Int), s)
  if Int32.minValue.toInt ≤ year ∧ year ≤ Int32.maxValue.toInt then return (year, s)
  else throw .outOfRange

/-- Reads the fraction of a second, if there is one; digits behind the ninth are dropped. -/
def scanFraction : Scan Nat
  | '.' :: s => do
    let (n, rest) ← scanNumber 9 s
    return (n * tenPow (9 - (s.length - rest.length)), rest.dropWhile Char.isDigit)
  | s => .ok (0, s)

/-- Reads two digits. -/
def scanTwoDigits : Scan (Nat × Nat)
  | c :: d :: s =>
    if c.isDigit && d.isDigit then .ok ((digitValue c, digitValue d), s) else .error .invalid
  | [c] => if 2 ≤ c.utf8Size then .error .invalid else .error .tooShort
  | [] => .error .tooShort

/-- Reads the hours and minutes of an offset. -/
def scanOffsetTime : Scan Int := fun s => do
  let ((h, h'), s) ← scanTwoDigits s
  let s := s.dropWhile fun c => c = ':' || Text.isBlank c
  let ((m, m'), s) ← scanTwoDigits s
  if 6 ≤ m then throw .outOfRange
  return (((h * 10 + h') * 60 + m * 10 + m' : Nat), s)

/-- Reads an offset from UTC, in minutes: `Z`, `UTC`, or a sign, hours and minutes. -/
def scanOffset : Scan Int := fun s =>
  if (s.take 3).map Char.toUpper = ['U', 'T', 'C'] then .ok (0, s.drop 3)
  else
    match s with
    | [] => .error .tooShort
    | c :: s =>
      if c = 'Z' || c = 'z' then .ok (0, s)
      else if c = '+' then scanOffsetTime s
      else if c = '-' || c = '\u2212' then do
        let (offset, s) ← scanOffsetTime s
        return (-offset, s)
      else .error .invalid

/-- Reads the character between date and time. -/
def scanSeparator : Scan Unit
  | [] => .error .tooShort
  | c :: s => if c = 'T' || c = 't' || c = ' ' then .ok ((), s) else .error .invalid

/-- Reads a date. -/
def scanDate : Scan Date := fun s => do
  let (year, s) ← scanYear s
  let ((), s) ← scanChar '-' (Text.trimStart s)
  let (month, s) ← scanField 1 12 s
  let ((), s) ← scanChar '-' (Text.trimStart s)
  let (day, s) ← scanField 1 31 s
  return (⟨year, month, day⟩, s)

/-- Reads the time of a day. -/
def scanTime (date : Date) : Scan Timestamp := fun s => do
  let (hour, s) ← scanField 0 23 s
  let ((), s) ← scanChar ':' (Text.trimStart s)
  let (minute, s) ← scanField 0 59 s
  let ((), s) ← scanChar ':' (Text.trimStart s)
  let (second, s) ← scanField 0 60 s
  let (fraction, s) ← scanFraction s
  let time :=
    if second = 60 then ⟨date, hour, minute, 59, fraction + 1000000000⟩
    else ⟨date, hour, minute, second, fraction⟩
  return (time, s)

/-- Reads a moment. -/
def ofChars (s : List Char) : Except ParseError Timestamp := do
  let (date, s) ← scanDate s
  let ((), s) ← scanSeparator s
  let (time, s) ← scanTime date s
  let (offset, s) ← scanOffset (Text.trimStart s)
  if !(Text.trimStart s).isEmpty then throw .tooLong
  if ¬ date.Valid ∨ 24 * 60 ≤ offset.natAbs then throw .outOfRange
  let moment := time.fromLocal offset
  if ¬ moment.date.Valid then throw .impossible
  return moment

/-- Reads a moment. -/
def parse (s : String) : Except ParseError Timestamp :=
  ofChars s.toList

end Timestamp

end GameGateway.Time
