/-!
# Blank characters and trimming

The **blank** characters are those with the Unicode property White_Space. Host names, protocol
tags and settings are read with the blanks around them removed; `trim` is that removal on
lists of characters and `String.trimBlank` is the same on strings.

Main statements: trimming twice is trimming once (`trim_trim`), and a text whose two ends are
not blank is left alone (`trim_eq_self`).
-/

namespace GameGateway.Text

/-- The inclusive code point ranges of the property **White_Space**. -/
def blankRanges : List (Nat × Nat) :=
  [(0x09, 0x0D), (0x20, 0x20), (0x85, 0x85), (0xA0, 0xA0), (0x1680, 0x1680), (0x2000, 0x200A),
    (0x2028, 0x2029), (0x202F, 0x202F), (0x205F, 0x205F), (0x3000, 0x3000)]

/-- Whether a code point lies in one of the ranges. -/
def inRanges (ranges : List (Nat × Nat)) (n : Nat) : Bool :=
  ranges.any fun r => r.1 ≤ n && n ≤ r.2

/-- A character is **blank** when its code point lies in one of the White_Space ranges. -/
def isBlank (c : Char) : Bool :=
  inRanges blankRanges c.toNat

/-- Digits are not blank. -/
theorem isBlank_of_isDigit {c : Char} (h : c.isDigit) : isBlank c = false := by
  have hrange : 48 ≤ c.toNat ∧ c.toNat ≤ 57 := by
    simpa [Char.isDigit, UInt32.le_iff_toNat_le] using h
  simp [isBlank, inRanges, blankRanges]
  omega

/-! ### Trimming lists of characters -/

/-- Drops the blanks at the front. -/
def trimStart (s : List Char) : List Char :=
  s.dropWhile isBlank

/-- Drops the characters satisfying `p` at the end. -/
def dropEndWhile (p : Char → Bool) (s : List Char) : List Char :=
  (s.reverse.dropWhile p).reverse

/-- Drops the blanks at the end. -/
def trimEnd (s : List Char) : List Char :=
  dropEndWhile isBlank s

/-- Drops the blanks at both ends. -/
def trim (s : List Char) : List Char :=
  trimEnd (trimStart s)

section Lemmas

variable {p : Char → Bool} {s : List Char}

/-- Nothing is dropped in front of a first character that is to stay. -/
theorem dropWhile_eq_self (h : ∀ c ∈ s.head?, p c = false) : s.dropWhile p = s := by
  cases s with
  | nil => rfl
  | cons c r => simp [h c rfl]

theorem head?_dropWhile_not : ∀ c ∈ (s.dropWhile p).head?, p c = false := by
  intro c hc
  simpa using List.head?_dropWhile_not p s |> fun h => by rw [hc] at h; simpa using h

/-- Nothing is dropped behind a last character that is to stay. -/
theorem dropEndWhile_eq_self (h : ∀ c ∈ s.getLast?, p c = false) : dropEndWhile p s = s := by
  rw [dropEndWhile, dropWhile_eq_self (by simpa using h), List.reverse_reverse]

theorem getLast?_dropEndWhile_not : ∀ c ∈ (dropEndWhile p s).getLast?, p c = false := by
  simpa [dropEndWhile] using head?_dropWhile_not (p := p) (s := s.reverse)

/-- The text is what is kept followed by characters that satisfy `p`. -/
theorem exists_eq_dropEndWhile_append (p : Char → Bool) (s : List Char) :
    ∃ t, s = dropEndWhile p s ++ t ∧ ∀ c ∈ t, p c = true := by
  refine ⟨(s.reverse.takeWhile p).reverse, ?_, fun c hc => ?_⟩
  · rw [dropEndWhile, ← List.reverse_append, List.takeWhile_append_dropWhile, List.reverse_reverse]
  · exact List.all_eq_true.1 List.all_takeWhile c (List.mem_reverse.1 hc)

/-- A text without blanks at its ends is not trimmed. -/
theorem trim_eq_self (hh : ∀ c ∈ s.head?, isBlank c = false)
    (hl : ∀ c ∈ s.getLast?, isBlank c = false) : trim s = s := by
  rw [trim, trimStart, dropWhile_eq_self hh, trimEnd, dropEndWhile_eq_self hl]

theorem getLast?_trim_not : ∀ c ∈ (trim s).getLast?, isBlank c = false :=
  getLast?_dropEndWhile_not

theorem head?_trim_not : ∀ c ∈ (trim s).head?, isBlank c = false := by
  intro c hc
  obtain ⟨t, ht, -⟩ := exists_eq_dropEndWhile_append isBlank (trimStart s)
  refine head?_dropWhile_not (s := s) c ?_
  rw [show s.dropWhile isBlank = trim s ++ t from ht]
  rw [Option.mem_def] at hc ⊢
  rw [List.head?_append, hc]
  rfl

/-- Trimming twice is trimming once. -/
@[simp]
theorem trim_trim (s : List Char) : trim (trim s) = trim s :=
  trim_eq_self head?_trim_not getLast?_trim_not

end Lemmas

end GameGateway.Text

namespace GameGateway

/-- The string without the blanks at its two ends. -/
def trimBlank (s : String) : String :=
  String.ofList (Text.trim s.toList)

/-- The string with the letters `A` to `Z` in lower case and everything else unchanged. -/
def lowerAscii (s : String) : String :=
  String.ofList (s.toList.map Char.toLower)

end GameGateway
