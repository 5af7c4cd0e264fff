import GameGateway.Ident.Id
import Mathlib.Algebra.Group.Nat.Defs

/-!
# The texts of identifiers

An identifier is read back from its text (`parse_toString`). The text begins with the tag of what
the identifier names, so identifiers of different resources have different texts (`toString_ne`).
Owners of routes are kept as such texts. The digits of an identifier are told apart in lower case,
too (`eq_of_map_toLower_eq`).
-/

namespace GameGateway

namespace Ulid

/-- The alphabet has each digit once. -/
theorem digitValue?_digit {n : Nat} (h : n < 32) : digitValue? (digit n) = some n := by
  decide +revert

theorem utf8Size_digit {n : Nat} (h : n < 32) : (digit n).utf8Size = 1 := by
  decide +revert

/-- All digits are of one byte, so that a text has as many bytes as digits. -/
theorem utf8ByteSize_digitsOf (count n : Nat) :
    (String.ofList (digitsOf count n)).utf8ByteSize = count := by
  induction count generalizing n with
  | zero => rfl
  | succ count ih =>
    have hdigit := utf8Size_digit (Nat.mod_lt n (show 0 < 32 by decide))
    rw [digitsOf, String.ofList_append, String.utf8ByteSize_append, ih, String.ofList_cons]
    simp [hdigit]

/-- The last digits of a number write what they leave of it. -/
theorem valueOf?_digitsOf (count n : Nat) :
    valueOf? (digitsOf count n) = some (n % 32 ^ count) := by
  induction count generalizing n with
  | zero => simp [digitsOf, valueOf?, Nat.mod_one]
  | succ count ih =>
    have hdigit := digitValue?_digit (Nat.mod_lt n (show 0 < 32 by decide))
    have hfront : (digitsOf count (n / 32)).foldlM
        (fun n c => (digitValue? c).map (n * 32 + ·)) 0 = some (n / 32 % 32 ^ count) := ih (n / 32)
    have hn : n % 32 ^ (count + 1) = n / 32 % 32 ^ count * 32 + n % 32 := by
      rw [Nat.pow_succ', Nat.mod_mul, Nat.mul_comm 32, Nat.add_comm]
    rw [digitsOf, valueOf?, List.foldlM_append, hfront]
    simp [hdigit, hn]

theorem length_digitsOf (count n : Nat) : (digitsOf count n).length = count := by
  induction count generalizing n with
  | zero => rfl
  | succ count ih => rw [digitsOf, List.length_append, ih, List.length_singleton]

theorem mem_alphabet_of_mem_digitsOf {c : Char} {count n : Nat} (hc : c ∈ digitsOf count n) :
    c ∈ alphabet := by
  have hdigit : ∀ d < 32, digit d ∈ alphabet := by decide
  induction count generalizing n with
  | zero => cases hc
  | succ count ih =>
    rw [digitsOf, List.mem_append, List.mem_singleton] at hc
    rcases hc with hc | rfl
    · exact ih hc
    · exact hdigit _ (Nat.mod_lt n (by decide))

/-- **Case does not matter** to digits: none of them is another one in lower case. -/
theorem eq_of_map_toLower_eq {l l' : List Char} (hl : ∀ c ∈ l, c ∈ alphabet)
    (hl' : ∀ c ∈ l', c ∈ alphabet) (h : l.map Char.toLower = l'.map Char.toLower) : l = l' := by
  have halphabet : alphabet.all fun c => c.toLower.toUpper = c := by decide
  have hback : ∀ l : List Char, (∀ c ∈ l, c ∈ alphabet) →
      (l.map Char.toLower).map Char.toUpper = l := by
    intro l hl
    rw [List.map_map]
    refine (List.map_congr_left fun c hc => ?_).trans (List.map_id l)
    exact of_decide_eq_true (List.all_eq_true.mp halphabet c (hl c hc))
  rw [← hback l hl, ← hback l' hl', h]

/-- **A ULID is read back from its text.** -/
theorem ofDigits_toString (u : Ulid) : ofDigits u.toString = .ok u := by
  have hu : u.toNat % 32 ^ length = u.toNat :=
    Nat.mod_eq_of_lt (Nat.lt_of_lt_of_le u.toFin.isLt (by decide))
  have hof : ofNat u.toNat = u := by
    rw [ofNat]
    congr 1
    exact Fin.ofNat_val_eq_self u.toFin
  rw [ofDigits, Ulid.toString, digits, utf8ByteSize_digitsOf, if_neg (by simp),
    String.toList_ofList, valueOf?_digitsOf, hu]
  simp only [hof]

end Ulid

namespace Id

/-- An identifier begins with the tag of what it names. -/
theorem take_toString {r : Resource} (id : Id r) : id.toString.toList.take 3 = r.tag.toList := by
  have h : r.tag.toList.length = 3 := by cases r <;> rfl
  rw [Id.toString, String.toList_append, String.toList_append, List.append_assoc,
    List.take_append_of_le_length (Nat.le_of_eq h.symm), List.take_of_length_le (Nat.le_of_eq h)]

/-- **Texts tell resources apart**: identifiers of different resources are never the same text. -/
theorem toString_ne {r r' : Resource} (h : r ≠ r') (a : Id r) (b : Id r') :
    a.toString ≠ b.toString := by
  intro heq
  have htag : r.tag.toList = r'.tag.toList := by rw [← take_toString a, heq, take_toString b]
  cases r <;> cases r' <;> first | exact h rfl | exact absurd htag (by decide)

/-- The tag is told from what follows it. -/
theorem splitTag?_toString {r : Resource} (id : Id r) :
    splitTag? id.toString = some (r.tag, id.ulid.toString) := by
  have hs : id.toString.toList = r.tag.toList ++ '_' :: id.ulid.toString.toList := by
    rw [Id.toString, String.toList_append, String.toList_append, List.append_assoc]
    rfl
  have htag : ∀ c ∈ r.tag.toList, decide (c ≠ '_') :=
    List.all_eq_true.1 (by cases r <;> rfl)
  rw [splitTag?, hs, List.dropWhile_append_of_pos htag, List.takeWhile_append_of_pos htag]
  simp

theorem isEmpty_toString {r : Resource} (id : Id r) : id.toString.isEmpty = false := by
  refine Bool.eq_false_iff.2 fun hempty => ?_
  have htag := take_toString id
  rw [String.isEmpty_iff.1 hempty] at htag
  cases r <;> exact absurd htag (by decide)

/-- **An identifier is read back from its text.** -/
theorem parse_toString {r : Resource} (id : Id r) : parse r id.toString = .ok id := by
  simp [parse, isEmpty_toString, splitTag?_toString, Ulid.ofDigits_toString]

/-- Different resources have different tags. -/
theorem tag_ne {r r' : Resource} (h : r' ≠ r) : r.tag ≠ r'.tag := by
  revert h
  cases r <;> cases r' <;> decide

/-- The text of an identifier is **refused** where that of another resource is expected. -/
theorem parse_toString_of_ne {r r' : Resource} (h : r' ≠ r) (id : Id r) :
    parse r' id.toString = .error (.wrongTag r'.tag r.tag) := by
  rw [parse, isEmpty_toString, if_neg Bool.false_ne_true, splitTag?_toString]
  exact if_pos (tag_ne h)

/-- **Different identifiers have different texts.** -/
theorem toString_inj {r : Resource} {a b : Id r} (h : a.toString = b.toString) : a = b := by
  have hparse := parse_toString a
  rw [h, parse_toString] at hparse
  exact (Except.ok.inj hparse).symm

end Id

end GameGateway
