import Mathlib.Data.String.Basic

/-!
# Splitting a text

`String.splitOn` goes over a text by the positions of its bytes. Where the separator is one
character, what it yields is what splitting the list of characters does (`splitOn_ofList`): the
pieces without a separator that separators join to the text (`mem_splitOn_iff`).
-/

namespace GameGateway.Text

open String

/-- What is left to be split is `r`, of which the piece at hand is to begin with `m`. -/
theorem splitOnAux_ofList (c : Char) (l m r : List Char) (acc : List String) :
    splitOnAux (ofList (l ++ m ++ r)) (ofList [c]) ⟨utf8Len l⟩ ⟨utf8Len (l ++ m)⟩ 0 acc =
      acc.reverse ++ (List.splitOnPPrepend (· == c) r m.reverse).map ofList := by
  have hextract : ∀ l m r : List Char,
      Pos.Raw.extract (ofList (l ++ m ++ r)) ⟨utf8Len l⟩ ⟨utf8Len (l ++ m)⟩ = ofList m := by
    intro l m r
    rw [utf8Len_append]
    exact extract_of_valid l m r
  induction r generalizing l m acc with
  | nil =>
    rw [splitOnAux, if_pos ((atEnd_of_valid (l ++ m) []).mpr rfl), hextract]
    simp
  | cons d r ih =>
    have hatEnd : ¬Pos.Raw.atEnd (ofList (l ++ m ++ d :: r)) ⟨utf8Len (l ++ m)⟩ = true := by
      rw [atEnd_of_valid]
      exact List.cons_ne_nil d r
    have hd : Pos.Raw.get (ofList (l ++ m ++ d :: r)) ⟨utf8Len (l ++ m)⟩ = d :=
      get_of_valid (l ++ m) (d :: r)
    have hc : Pos.Raw.get (ofList [c]) 0 = c := get_of_valid [] [c]
    have hnext : Pos.Raw.next (ofList (l ++ m ++ d :: r)) ⟨utf8Len (l ++ m)⟩ =
        ⟨utf8Len (l ++ m ++ [d])⟩ := by
      rw [next_of_valid (l ++ m) d r, utf8Len_append (l ++ m) [d]]
      simp
    have hsplit : ofList (l ++ m ++ d :: r) = ofList (l ++ m ++ [d] ++ r) := by
      rw [List.append_assoc (l ++ m), List.singleton_append]
    rw [splitOnAux, if_neg hatEnd, hd, hc, List.splitOnPPrepend_cons_eq_if]
    by_cases hdc : d = c
    · subst hdc
      have hnextSep : Pos.Raw.next (ofList [d]) 0 = ⟨d.utf8Size⟩ := by
        simpa using next_of_valid [] d []
      have hendSep : Pos.Raw.atEnd (ofList [d]) ⟨d.utf8Size⟩ = true := by
        simpa using atEnd_of_valid [d] []
      have hback : (⟨utf8Len (l ++ m ++ [d])⟩ : Pos.Raw).unoffsetBy ⟨d.utf8Size⟩ =
          ⟨utf8Len (l ++ m)⟩ := by
        rw [Pos.Raw.unoffsetBy, utf8Len_append (l ++ m) [d]]
        simp
      have hrest := ih (l ++ m ++ [d]) [] (ofList m :: acc)
      rw [List.append_nil] at hrest
      simp only [beq_self_eq_true, if_true, hnext, hnextSep, hendSep, hback, hextract]
      rw [hsplit, hrest]
      simp
    · have hback : (⟨utf8Len (l ++ m)⟩ : Pos.Raw).unoffsetBy 0 = ⟨utf8Len (l ++ m)⟩ := rfl
      have hrest := ih l (m ++ [d]) acc
      rw [← List.append_assoc] at hrest
      rw [if_neg (by simpa using hdc), if_neg (by simpa using hdc), hback, hnext, hsplit, hrest]
      simp

/-- **Splitting a text at a character** splits the list of its characters. -/
theorem splitOn_ofList (s : String) (c : Char) :
    s.splitOn (ofList [c]) = (s.toList.splitOn c).map ofList := by
  have hsep : (ofList [c] == "") = false := by
    rw [beq_eq_false_iff_ne, ← ofList_nil]
    exact fun h => nomatch ofList_injective h
  have haux := splitOnAux_ofList c [] [] s.toList []
  simp only [List.nil_append, ofList_toList] at haux
  rw [splitOn, hsep, List.splitOn_eq_splitOnP, List.splitOnP_eq_splitOnPPrepend]
  exact haux

/-! ### Pieces -/

variable {c : Char} {s piece : List Char}

theorem not_mem_of_mem_splitOn (h : piece ∈ s.splitOn c) : c ∉ piece := by
  induction hn : s.length using Nat.strongRecOn generalizing s with
  | ind n ih =>
    by_cases hc : c ∈ s
    · obtain ⟨front, back, rfl, hfront⟩ := List.eq_append_cons_of_mem hc
      rw [List.splitOn_append_cons_self_of_not_mem hfront, List.mem_cons] at h
      rcases h with rfl | h
      · exact hfront
      · exact ih back.length (by simp at hn; omega) h rfl
    · rw [List.splitOn_eq_singleton hc, List.mem_singleton] at h
      exact h ▸ hc

/-- **The pieces of a text** have no separator in them, and separators join them to the text. -/
theorem mem_splitOn_iff : piece ∈ s.splitOn c ↔
    ∃ pieces : List (List Char), s = [c].intercalate pieces ∧ (∀ p ∈ pieces, c ∉ p) ∧
      piece ∈ pieces := by
  constructor
  · intro h
    exact ⟨s.splitOn c, (List.intercalate_splitOn c).symm, fun p => not_mem_of_mem_splitOn, h⟩
  · rintro ⟨pieces, rfl, hpieces, hmem⟩
    rwa [List.splitOn_intercalate c hpieces (List.ne_nil_of_mem hmem)]

end GameGateway.Text
