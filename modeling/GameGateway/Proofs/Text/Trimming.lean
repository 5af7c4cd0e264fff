import GameGateway.Text.Blank
import Mathlib.Data.List.Infix
import Mathlib.Data.List.TakeWhile

/-!
# Trimming

What trimming takes away depends on the ends of a text only, so blanks around a text do not matter
to it (`trim_between`), and neither does the case of letters (`trim_map_toLower`).
-/

namespace GameGateway.Text

variable {p : Char → Bool} {f : Char → Char} {s t before after : List Char} {c d : Char}

/-! ### Dropping at the end -/

/-- What is dropped from the end of a text is dropped as well when it is put there. -/
theorem dropEndWhile_append (h : ∀ c ∈ t, p c = true) :
    dropEndWhile p (s ++ t) = dropEndWhile p s := by
  rw [dropEndWhile, List.reverse_append,
    List.dropWhile_append_of_pos fun c hc => h c (List.mem_reverse.mp hc)]
  rfl

/-- A last character that is to stay keeps all in front of it. -/
theorem dropEndWhile_concat (hc : p c = false) : dropEndWhile p (s ++ [c]) = s ++ [c] := by
  refine dropEndWhile_eq_self fun d hd => ?_
  rw [List.getLast?_concat, Option.mem_some_iff] at hd
  exact hd ▸ hc

theorem dropEndWhile_map : dropEndWhile p (s.map f) = (dropEndWhile (p ∘ f) s).map f := by
  rw [dropEndWhile, dropEndWhile, ← List.map_reverse, List.dropWhile_map, List.map_reverse]

/-- Dropping from the end leaves a beginning. -/
theorem dropEndWhile_isPrefix : dropEndWhile p s <+: s := by
  obtain ⟨t, ht, -⟩ := exists_eq_dropEndWhile_append p s
  exact ⟨t, ht.symm⟩

/-- Nothing is left to be dropped a second time. -/
theorem dropEndWhile_dropEndWhile : dropEndWhile p (dropEndWhile p s) = dropEndWhile p s :=
  dropEndWhile_eq_self getLast?_dropEndWhile_not

/-- Dropping some characters at the end leaves as many of the others. -/
theorem count_dropEndWhile (hc : p c = false) : (dropEndWhile p s).count c = s.count c := by
  obtain ⟨dropped, hs, hall⟩ := exists_eq_dropEndWhile_append p s
  have hnone : dropped.count c = 0 := List.count_eq_zero.mpr fun hmem => by
    rw [hall c hmem] at hc
    cases hc
  conv_rhs => rw [hs]
  rw [List.count_append, hnone, Nat.add_zero]

/-- A first character that is not to be dropped stays the first one. -/
theorem head?_dropEndWhile (hs : s.head? = some c) (hc : p c = false) :
    (dropEndWhile p s).head? = some c := by
  obtain ⟨dropped, heq, hall⟩ := exists_eq_dropEndWhile_append p s
  rw [heq, List.head?_append, Option.or_eq_some_iff] at hs
  rcases hs with hkept | ⟨-, hdropped⟩
  · exact hkept
  · rw [hall c (List.mem_of_mem_head? hdropped)] at hc
    cases hc

/-- Dropping at the end of a text leaves what it begins with, up to a character that stays. -/
theorem isPrefix_dropEndWhile_append (hs : ∀ c ∈ s.getLast?, p c = false) :
    s <+: dropEndWhile p (s ++ t) := by
  have hself : dropEndWhile p s = s := dropEndWhile_eq_self hs
  rw [dropEndWhile, List.reverse_append, List.dropWhile_append]
  split
  · rw [← dropEndWhile, hself]
  · rw [List.reverse_append, List.reverse_reverse]
    exact List.prefix_append s _

theorem trim_sublist : (trim s).Sublist s :=
  dropEndWhile_isPrefix.sublist.trans (List.dropWhile_sublist _)

/-! ### Blanks around a text -/

/-- **Blanks around a text** do not matter to trimming. -/
theorem trim_between (hbefore : ∀ c ∈ before, isBlank c = true)
    (hafter : ∀ c ∈ after, isBlank c = true) : trim (before ++ s ++ after) = trim s := by
  have hstart : trimStart (before ++ s ++ after) = trimStart (s ++ after) := by
    rw [List.append_assoc]
    exact List.dropWhile_append_of_pos hbefore
  rw [trim, hstart, trimStart, List.dropWhile_append]
  split
  · next hs =>
    -- nothing is left of either text
    have hnil : after.dropWhile isBlank = [] := List.dropWhile_eq_nil_iff.mpr hafter
    rw [hnil, trim, trimStart, List.isEmpty_iff.mp hs]
  · exact dropEndWhile_append hafter

/-- A trimmed text with something behind it that is not blank at its ends is trimmed. -/
theorem trim_append_eq_self (hs : trim s = s) (hh : ∀ c ∈ t.head?, isBlank c = false)
    (hl : ∀ c ∈ t.getLast?, isBlank c = false) : trim (s ++ t) = s ++ t := by
  refine trim_eq_self (fun c hc => ?_) fun c hc => ?_
  · rw [List.head?_append, Option.mem_def, Option.or_eq_some_iff] at hc
    rcases hc with hc | ⟨-, hc⟩
    · exact head?_trim_not (s := s) c (hs.symm ▸ hc)
    · exact hh c hc
  · rw [List.getLast?_append, Option.mem_def, Option.or_eq_some_iff] at hc
    rcases hc with hc | ⟨-, hc⟩
    · exact hl c hc
    · exact getLast?_trim_not (s := s) c (hs.symm ▸ hc)

/-- A text is trimmed just when its ends are not blank. -/
theorem trim_eq_self_iff : trim s = s ↔
    (∀ c ∈ s.head?, isBlank c = false) ∧ ∀ c ∈ s.getLast?, isBlank c = false := by
  constructor
  · intro h
    rw [← h]
    exact ⟨head?_trim_not, getLast?_trim_not⟩
  · rintro ⟨hh, hl⟩
    exact trim_eq_self hh hl

/-- Trimming leaves a trimmed text that there is in front. -/
theorem isPrefix_trim_append (hne : s ≠ []) (hs : trim s = s) : s <+: trim (s ++ t) := by
  obtain ⟨hhead, hlast⟩ := trim_eq_self_iff.mp hs
  have hstart : trimStart (s ++ t) = s ++ t := by
    refine dropWhile_eq_self fun c hc => hhead c ?_
    rwa [List.head?_append_of_ne_nil s hne] at hc
  rw [trim, hstart]
  exact isPrefix_dropEndWhile_append hlast

/-! ### Case -/

/-- The letters in upper case, by their code points. -/
theorem isUpper_iff : c.isUpper = true ↔ 65 ≤ c.toNat ∧ c.toNat ≤ 90 := by
  change decide ('A'.val ≤ c.val ∧ c.val ≤ 'Z'.val) = true ↔ _
  rw [decide_eq_true_iff, UInt32.le_iff_toNat_le, UInt32.le_iff_toNat_le]
  rfl

/-- The letters in lower case, by their code points. -/
theorem isLower_iff : c.isLower = true ↔ 97 ≤ c.toNat ∧ c.toNat ≤ 122 := by
  change (decide ('a'.val ≤ c.val) && decide (c.val ≤ 'z'.val)) = true ↔ _
  simp only [Bool.and_eq_true, decide_eq_true_eq, UInt32.le_iff_toNat_le]
  rfl

theorem isAlpha_iff : c.isAlpha = true ↔
    65 ≤ c.toNat ∧ c.toNat ≤ 90 ∨ 97 ≤ c.toNat ∧ c.toNat ≤ 122 := by
  change (c.isUpper || c.isLower) = true ↔ _
  rw [Bool.or_eq_true, isUpper_iff, isLower_iff]

/-- **Lower case moves code points**, those from `A` to `Z` by 32, and no others. -/
theorem toNat_toLower :
    c.toLower.toNat = if 65 ≤ c.toNat ∧ c.toNat ≤ 90 then c.toNat + 32 else c.toNat := by
  have hrange : 'A'.val ≤ c.val ∧ c.val ≤ 'Z'.val ↔ 65 ≤ c.toNat ∧ c.toNat ≤ 90 :=
    decide_eq_true_iff.symm.trans isUpper_iff
  by_cases h : 65 ≤ c.toNat ∧ c.toNat ≤ 90
  · have hlower : c.toLower = ⟨c.val + ('a'.val - 'A'.val), _⟩ := dif_pos (hrange.mpr h)
    have hsum : (c.val + ('a'.val - 'A'.val)).toNat = c.toNat + 32 := by
      rw [UInt32.toNat_add]
      exact Nat.mod_eq_of_lt (by change c.toNat + 32 < _; omega)
    rw [if_pos h, hlower]
    exact hsum
  · have hlower : c.toLower = c := dif_neg (mt hrange.mp h)
    rw [if_neg h, hlower]

/-- A letter stays a letter in lower case, and nothing else becomes one. -/
theorem isAlpha_toLower : c.toLower.isAlpha = c.isAlpha := by
  rw [Bool.eq_iff_iff, isAlpha_iff, isAlpha_iff, toNat_toLower]
  split <;> omega

/-- In lower case every letter is a small one. -/
theorem isLower_toLower (h : c.isAlpha = true) : c.toLower.isLower = true := by
  rw [isAlpha_iff] at h
  rw [isLower_iff, toNat_toLower]
  split <;> omega

/-- No letter is blank. -/
theorem isBlank_of_isAlpha (h : c.isAlpha = true) : isBlank c = false := by
  rw [isAlpha_iff] at h
  simp [isBlank, inRanges, blankRanges]
  omega

/-- What is no letter stays as it is. -/
theorem toLower_eq_self (h : c.isAlpha = false) : c.toLower = c := by
  rw [Bool.eq_false_iff, ne_eq, isAlpha_iff] at h
  rw [← Char.toNat_inj, toNat_toLower, if_neg (by omega)]

@[simp]
theorem toLower_toLower : c.toLower.toLower = c.toLower := by
  rw [← Char.toNat_inj, toNat_toLower, if_neg]
  rw [toNat_toLower]
  split <;> omega

/-- Blanks have no case, so that **lower case changes nothing about where a text is trimmed**. -/
@[simp]
theorem isBlank_toLower : isBlank c.toLower = isBlank c := by
  cases h : c.isAlpha with
  | true => rw [isBlank_of_isAlpha h, isBlank_of_isAlpha (isAlpha_toLower.trans h)]
  | false => rw [toLower_eq_self h]

/-- Only letters become other characters, and these are letters. -/
theorem toLower_eq_iff (hd : d.isAlpha = false) : c.toLower = d ↔ c = d := by
  cases h : c.isAlpha with
  | true =>
    refine iff_of_false ?_ ?_
    · rintro rfl
      rw [isAlpha_toLower, h] at hd
      cases hd
    · rintro rfl
      rw [h] at hd
      cases hd
  | false => rw [toLower_eq_self h]

theorem toLower_comp_toLower : Char.toLower ∘ Char.toLower = Char.toLower :=
  funext fun _ => toLower_toLower

section Compared

variable (hd : d.isAlpha = false)
include hd

theorem mem_map_toLower : d ∈ s.map Char.toLower ↔ d ∈ s := by
  simp only [List.mem_map, toLower_eq_iff hd, exists_eq_right]

theorem count_map_toLower : (s.map Char.toLower).count d = s.count d := by
  rw [List.count_eq_countP, List.countP_map, List.count_eq_countP]
  congr 1
  funext c
  rw [Function.comp_apply, Bool.eq_iff_iff, beq_iff_eq, beq_iff_eq, toLower_eq_iff hd]

theorem head?_map_toLower : (s.map Char.toLower).head? = some d ↔ s.head? = some d := by
  simp only [List.head?_map, Option.map_eq_some_iff, toLower_eq_iff hd, exists_eq_right]

/-- Where the first separator stands is the same in lower case. -/
theorem takeWhile_map_toLower :
    (s.map Char.toLower).takeWhile (· ≠ d) = (s.takeWhile (· ≠ d)).map Char.toLower := by
  rw [List.takeWhile_map]
  congr 2
  funext c
  simp only [Function.comp_apply, ne_eq, toLower_eq_iff hd]

theorem dropEndWhile_map_toLower :
    dropEndWhile (· = d) (s.map Char.toLower) =
      (dropEndWhile (· = d) s).map Char.toLower := by
  rw [dropEndWhile_map]
  congr 2
  funext c
  simp only [Function.comp_apply, toLower_eq_iff hd]

end Compared

/-- Trimming does not see case. -/
theorem trim_map_toLower : trim (s.map Char.toLower) = (trim s).map Char.toLower := by
  have hcase : isBlank ∘ Char.toLower = isBlank := funext fun _ => isBlank_toLower
  rw [trim, trim, trimStart, List.dropWhile_map, trimEnd, dropEndWhile_map, hcase]
  rfl

end GameGateway.Text
