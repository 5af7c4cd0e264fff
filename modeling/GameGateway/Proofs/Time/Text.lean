import GameGateway.Proofs.Decimal.Digits
import GameGateway.Proofs.Except
import GameGateway.Time.Timestamp

/-!
# The texts of moments

A valid moment is read back from its text (`parse_toString`), leap seconds and years with a sign
included. There is one law for each scanner: it takes what has been written for it off the front,
and leaves what follows.
-/

namespace GameGateway.Time.Timestamp

open Decimal

variable {rest : List Char}

/-! ### Blanks and first characters -/

/-- A number has no blank in front of it. -/
theorem trimStart_padDigits_append {width n : Nat} :
    Text.trimStart (padDigits width n ++ rest) = padDigits width n ++ rest := by
  obtain ⟨c, s, hs, hc⟩ := exists_padDigits_eq_cons width n
  rw [hs]
  refine Text.dropWhile_eq_self fun d hd => ?_
  obtain rfl : c = d := by simpa using hd
  exact Text.isBlank_of_isDigit hc

theorem padDigits_append_ne_cons {width n : Nat} {c : Char} {s : List Char}
    (hc : c.isDigit = false) : padDigits width n ++ rest ≠ c :: s := by
  obtain ⟨d, t, hs, hd⟩ := exists_padDigits_eq_cons width n
  rw [hs]
  intro h
  obtain ⟨rfl, -⟩ := List.cons.inj h
  rw [hc] at hd
  cases hd

theorem scanChar_trimStart_cons {c : Char} (hc : Text.isBlank c = false) :
    scanChar c (Text.trimStart (c :: rest)) = .ok ((), rest) := by
  rw [Text.trimStart, Text.dropWhile_eq_self (by simpa using hc), scanChar, if_pos rfl]

/-! ### Numbers -/

/-- **A padded number is read back**, as long as no further digit follows it. -/
theorem scanNumber_padDigits_append {most width n : Nat}
    (hmost : (padDigits width n).length ≤ most) (hn : n ≤ Int64.maxValue.toInt)
    (hrest : ∀ c ∈ rest.head?, c.isDigit = false) :
    scanNumber most (padDigits width n ++ rest) = .ok (n, rest) := by
  have hspan : spanDigits (padDigits width n ++ rest) = (padDigits width n, rest) :=
    spanDigits_append (fun _ => isDigit_of_mem_padDigits) hrest
  have hne : padDigits width n ++ rest ≠ [] := List.append_ne_nil_of_left_ne_nil padDigits_ne_nil _
  rw [scanNumber]
  · simp only [hspan, List.take_of_length_le hmost, List.isEmpty_iff, padDigits_ne_nil, if_false,
      natOfDigits_padDigits, Int.not_lt.2 hn, List.drop_left]
  · exact hne

/-- A field of two digits is read back within its bounds. -/
theorem scanField_padDigits_append {low high n : Nat} (hlow : low ≤ n) (hhigh : n ≤ high)
    (hn : n < 100) (hrest : ∀ c ∈ rest.head?, c.isDigit = false) :
    scanField low high (padDigits 2 n ++ rest) = .ok (n, rest) := by
  have hnumber : scanNumber 2 (padDigits 2 n ++ rest) = .ok (n, rest) :=
    scanNumber_padDigits_append (Nat.le_of_eq (length_padDigits (by decide) hn))
      (Int.le_trans (Int.ofNat_le.2 (Nat.le_of_lt hn)) (by decide)) hrest
  rw [scanField, trimStart_padDigits_append, hnumber]
  simp [hlow, hhigh]

/-- Years are read back, also those that need a sign. -/
theorem scanYear_writeYear_append {year : Int} (hlow : Date.minYear ≤ year)
    (hhigh : year ≤ Date.maxYear) (hrest : ∀ c ∈ rest.head?, c.isDigit = false) :
    scanYear (writeYear year ++ rest) = .ok (year, rest) := by
  have hyear : Int32.minValue.toInt ≤ year ∧ year ≤ Int32.maxValue.toInt :=
    ⟨Int.le_trans (by decide) hlow, Int.le_trans hhigh (by decide)⟩
  have hmax : (year.natAbs : Int) ≤ Int64.maxValue.toInt := by
    refine Int.le_trans (b := 262143) ?_ (by decide)
    rw [Date.minYear] at hlow
    rw [Date.maxYear] at hhigh
    omega
  have hsigned : scanNumber (padDigits 4 year.natAbs ++ rest).length
      (padDigits 4 year.natAbs ++ rest) = .ok (year.natAbs, rest) :=
    scanNumber_padDigits_append (by simp) hmax hrest
  rw [writeYear]
  split
  case isTrue hshort =>
    have hsmall : year.toNat < 10000 := by omega
    have hdigits : scanNumber 4 (padDigits 4 year.toNat ++ rest) = .ok (year.toNat, rest) :=
      scanNumber_padDigits_append (Nat.le_of_eq (length_padDigits (by decide) hsmall))
        (by omega) hrest
    rw [scanYear, trimStart_padDigits_append]
    dsimp only
    -- a digit is no sign, so at most four are taken
    split
    · exact absurd ‹_› (padDigits_append_ne_cons rfl)
    · exact absurd ‹_› (padDigits_append_ne_cons rfl)
    · simp [hdigits, Int.toNat_of_nonneg hshort.1, hyear]
  case isFalse hlong =>
    split
    case isTrue hneg =>
      have htrim : Text.trimStart ('-' :: (padDigits 4 year.natAbs ++ rest)) =
          '-' :: (padDigits 4 year.natAbs ++ rest) := rfl
      have hvalue : -(year.natAbs : Int) = year := by omega
      simp only [scanYear, List.cons_append, htrim, hsigned, Except.ok_bind, Except.pure_eq_ok,
        hvalue, hyear, and_self, if_true]
    case isFalse hpos =>
      have htrim : Text.trimStart ('+' :: (padDigits 4 year.natAbs ++ rest)) =
          '+' :: (padDigits 4 year.natAbs ++ rest) := rfl
      have hvalue : (year.natAbs : Int) = year := by omega
      simp only [scanYear, List.cons_append, htrim, hsigned, Except.ok_bind, Except.pure_eq_ok,
        hvalue, hyear, and_self, if_true]

/-! ### Fractions and offsets -/

/-- The digits of a fraction stand for as many nanoseconds as their number says. -/
theorem scanFraction_padDigits_append {width n : Nat} (hwidth : 0 < width) (hwidth' : width ≤ 9)
    (hn : n < tenPow width) (hrest : ∀ c ∈ rest.head?, c.isDigit = false) :
    scanFraction ('.' :: (padDigits width n ++ rest)) = .ok (n * tenPow (9 - width), rest) := by
  have hlength := length_padDigits hwidth hn
  have hn' : n ≤ 10 ^ 9 :=
    Nat.le_trans (Nat.le_of_lt hn) (Nat.pow_le_pow_right (by decide) hwidth')
  have hnumber : scanNumber 9 (padDigits width n ++ rest) = .ok (n, rest) :=
    scanNumber_padDigits_append (by rwa [hlength]) (Int.le_trans (Int.ofNat_le.2 hn') (by decide))
      hrest
  simp only [scanFraction, hnumber, Except.ok_bind, Except.pure_eq_ok, List.length_append, hlength,
    Nat.add_sub_cancel, Text.dropWhile_eq_self hrest]

/-- A fraction is written with as many digits as stand for it, or not at all. -/
theorem writeFraction_cases {nano : Nat} (hnano : nano < 1000000000) :
    (nano = 0 ∧ writeFraction nano = []) ∨
      ∃ width n, 0 < width ∧ width ≤ 9 ∧ n < tenPow width ∧ n * tenPow (9 - width) = nano ∧
        writeFraction nano = '.' :: padDigits width n := by
  unfold writeFraction
  split
  case isTrue hzero => exact .inl ⟨hzero, rfl⟩
  case isFalse =>
    split
    case isTrue hmilli =>
      refine .inr ⟨3, nano / 1000000, by decide, by decide, Nat.div_lt_of_lt_mul hnano, ?_, rfl⟩
      exact Nat.div_mul_cancel (Nat.dvd_of_mod_eq_zero hmilli)
    case isFalse =>
      split
      case isTrue hmicro =>
        refine .inr ⟨6, nano / 1000, by decide, by decide, Nat.div_lt_of_lt_mul hnano, ?_, rfl⟩
        exact Nat.div_mul_cancel (Nat.dvd_of_mod_eq_zero hmicro)
      case isFalse =>
        exact .inr ⟨9, nano, by decide, by decide, hnano, Nat.mul_one nano, rfl⟩

/-- The fraction of a second is read back however few digits it is written with. -/
theorem scanFraction_writeFraction_append {nano : Nat} (hnano : nano < 1000000000) :
    scanFraction (writeFraction nano ++ 'Z' :: rest) = .ok (nano, 'Z' :: rest) := by
  rcases writeFraction_cases hnano with ⟨rfl, hwrite⟩ | ⟨width, n, hlow, hhigh, hn, hvalue, hwrite⟩
  · rw [hwrite]
    rfl
  · rw [hwrite, List.cons_append, scanFraction_padDigits_append hlow hhigh hn (by simp), hvalue]

/-- Clocks that are not ahead of UTC show the moment. -/
theorem fromLocal_zero {t : Timestamp} (hhour : t.hour < 24) (hminute : t.minute < 60) :
    t.fromLocal 0 = t := by
  have hlow : ¬ ((t.hour : Int) * 60 + t.minute - 0 < 0) := by omega
  have hhigh : ¬ (24 * 60 ≤ (t.hour : Int) * 60 + t.minute - 0) := by omega
  have hday : (((t.hour : Int) * 60 + t.minute - 0) % (24 * 60)).toNat =
      t.hour * 60 + t.minute := by omega
  have hhour' : (t.hour * 60 + t.minute) / 60 = t.hour := by omega
  have hminute' : (t.hour * 60 + t.minute) % 60 = t.minute := by omega
  simp only [fromLocal, hlow, hhigh, hday, hhour', hminute', if_false]

/-! ### Dates and times -/

/-- No month has more than 31 days. -/
theorem daysIn_le (year : Int) (month : Nat) : daysIn year month ≤ 31 := by
  unfold daysIn
  split <;> first | split <;> decide | decide

theorem month_of_daysIn_pos {year : Int} {month : Nat} (h : 0 < daysIn year month) :
    1 ≤ month ∧ month ≤ 12 := by
  unfold daysIn at h
  split at h <;> first | exact absurd h (by decide) | decide

/-- A date is read back. -/
theorem scanDate_append {d : Date} (hd : d.Valid) (hrest : ∀ c ∈ rest.head?, c.isDigit = false) :
    scanDate (writeYear d.year ++
      '-' :: (padDigits 2 d.month ++ '-' :: (padDigits 2 d.day ++ rest))) = .ok (d, rest) := by
  obtain ⟨hlow, hhigh, hfirst, hlast⟩ := hd
  have hmonth := month_of_daysIn_pos (Nat.le_trans hfirst hlast)
  have hday := Nat.le_trans hlast (daysIn_le d.year d.month)
  have hdash {s : List Char} : ∀ c ∈ ('-' :: s).head?, c.isDigit = false := by simp
  simp only [scanDate, scanYear_writeYear_append hlow hhigh hdash, Except.ok_bind,
    scanChar_trimStart_cons (c := '-') (by decide),
    scanField_padDigits_append hmonth.1 hmonth.2 (by omega) hdash,
    scanField_padDigits_append hfirst hday (by omega) hrest, Except.pure_eq_ok]

/-- A time of day is read back; a 60th second is told by a fraction above one second. -/
theorem scanTime_append {date : Date} {hour minute second nano : Nat} (hhour : hour < 24)
    (hminute : minute < 60) (hsecond : second ≤ 60) (hnano : nano < 1000000000) :
    scanTime date (padDigits 2 hour ++ ':' :: (padDigits 2 minute ++ ':' :: (padDigits 2 second ++
        (writeFraction nano ++ 'Z' :: rest)))) =
      .ok (if second = 60 then ⟨date, hour, minute, 59, nano + 1000000000⟩
        else ⟨date, hour, minute, second, nano⟩, 'Z' :: rest) := by
  have hcolon {s : List Char} : ∀ c ∈ (':' :: s).head?, c.isDigit = false := by simp
  have hfraction : ∀ c ∈ (writeFraction nano ++ 'Z' :: rest).head?, c.isDigit = false := by
    rcases writeFraction_cases hnano with ⟨-, hwrite⟩ | ⟨width, n, -, -, -, -, hwrite⟩
    · simp [hwrite]
    · simp [hwrite]
  simp only [scanTime, Except.ok_bind, scanChar_trimStart_cons (c := ':') (by decide),
    scanField_padDigits_append (Nat.zero_le hour) (Nat.le_of_lt_succ hhour) (by omega) hcolon,
    scanField_padDigits_append (Nat.zero_le minute) (Nat.le_of_lt_succ hminute) (by omega) hcolon,
    scanField_padDigits_append (Nat.zero_le second) hsecond (by omega) hfraction,
    scanFraction_writeFraction_append hnano, Except.pure_eq_ok]

/-- The time of a moment is read back. A leap second is written as the 60th. -/
theorem scanTime_append_of_valid {t : Timestamp} (ht : t.Valid) (rest : List Char) :
    scanTime t.date (padDigits 2 t.hour ++ ':' :: (padDigits 2 t.minute ++
      ':' :: (padDigits 2 (if 1000000000 ≤ t.nano then t.second + 1 else t.second) ++
        (writeFraction (if 1000000000 ≤ t.nano then t.nano - 1000000000 else t.nano) ++
          'Z' :: rest)))) = .ok (t, 'Z' :: rest) := by
  obtain ⟨-, hhour, hminute, hsecond, hnano⟩ := ht
  split
  case isTrue hleap =>
    obtain ⟨h59, hnano⟩ : t.second = 59 ∧ t.nano < 2000000000 := by
      split at hnano
      · exact ⟨‹_›, hnano⟩
      · omega
    -- the 60th second is read as the 59th with the whole second put back
    rw [scanTime_append hhour hminute (by omega) (by omega), if_pos (by omega),
      Nat.sub_add_cancel hleap, ← h59]
  case isFalse hleap =>
    rw [scanTime_append hhour hminute (by omega) (by omega), if_neg (by omega)]

/-- **A moment is read back from its text.** -/
theorem parse_toString {t : Timestamp} (ht : t.Valid) : parse t.toString = .ok t := by
  have hseparator {s : List Char} : ∀ c ∈ ('T' :: s).head?, c.isDigit = false := by simp
  have htime := scanTime_append_of_valid ht []
  have hoffset : scanOffset (Text.trimStart ['Z']) = .ok (0, []) := rfl
  have hend : Text.trimStart [] = [] := rfl
  have hmoment : t.fromLocal 0 = t := fromLocal_zero ht.2.1 ht.2.2.1
  rw [parse, Timestamp.toString, String.toList_ofList]
  simp only [ofChars, chars, List.append_assoc, List.cons_append, scanDate_append ht.1 hseparator,
    Except.ok_bind]
  simp [scanSeparator, htime, hoffset, hend, hmoment, ht.1]

end GameGateway.Time.Timestamp
