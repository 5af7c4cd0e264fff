import GameGateway.Decimal.Digits

/-!
# Numbers from their digits

A number is what its digits write, also when these are padded with zeros
(`natOfDigits_padDigits`), and the digits in front of a text that does not go on with one are found
again (`spanDigits_append`).
-/

namespace GameGateway.Decimal

theorem natOfDigits_toDigits (n : Nat) : natOfDigits (Nat.toDigits 10 n) = n := by
  have hmul : natOfDigits (Nat.toDigits 10 n) = Nat.ofDigitChars 10 (Nat.toDigits 10 n) 0 := by
    simp only [natOfDigits, Nat.ofDigitChars, digitValue, Nat.mul_comm]
  rw [hmul, Nat.ofDigitChars_ten_toDigits]

theorem spanDigits_append {digits rest : List Char} (hdigits : ∀ c ∈ digits, c.isDigit)
    (hrest : ∀ c ∈ rest.head?, c.isDigit = false) :
    spanDigits (digits ++ rest) = (digits, rest) := by
  have hstop : rest.takeWhile Char.isDigit = [] ∧ rest.dropWhile Char.isDigit = rest := by
    cases rest with
    | nil => exact ⟨rfl, rfl⟩
    | cons c rest => simp [hrest c rfl]
  rw [spanDigits, List.takeWhile_append_of_pos hdigits, List.dropWhile_append_of_pos hdigits,
    hstop.1, hstop.2, List.append_nil]

/-! ### Padded digits -/

variable {width n : Nat}

theorem natOfDigits_padDigits : natOfDigits (padDigits width n) = n := by
  have hzeros : ∀ count : Nat,
      (List.replicate count '0').foldl (fun n c => n * 10 + digitValue c) 0 = 0 := by
    intro count
    induction count with
    | zero => rfl
    | succ count ih => exact ih
  rw [natOfDigits, padDigits, List.foldl_append, hzeros]
  exact natOfDigits_toDigits n

theorem isDigit_of_mem_padDigits {c : Char} (h : c ∈ padDigits width n) : c.isDigit := by
  rcases List.mem_append.mp h with h | h
  · rw [List.eq_of_mem_replicate h]
    rfl
  · exact Nat.isDigit_of_mem_toDigits (by decide) (by decide) h

theorem length_padDigits (hwidth : 0 < width) (hn : n < tenPow width) :
    (padDigits width n).length = width := by
  have hlength := (Nat.length_toDigits_le_iff (b := 10) (by decide) hwidth).mpr hn
  rw [padDigits, List.length_append, List.length_replicate]
  omega

theorem padDigits_ne_nil : padDigits width n ≠ [] :=
  List.append_ne_nil_of_right_ne_nil _ Nat.toDigits_ne_nil

/-- The first padded digit is a digit, so it is none of the signs that may stand in front. -/
theorem exists_padDigits_eq_cons (width n : Nat) :
    ∃ c s, padDigits width n = c :: s ∧ c.isDigit := by
  have hne : padDigits width n ≠ [] := padDigits_ne_nil
  obtain ⟨c, s, hs⟩ := List.exists_cons_of_ne_nil hne
  exact ⟨c, s, hs, isDigit_of_mem_padDigits (hs ▸ List.mem_cons_self)⟩

end GameGateway.Decimal
