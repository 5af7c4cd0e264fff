import GameGateway.Proofs.Ident.Text
import GameGateway.Proofs.Wire.Rewriting

/-!
# The order of identifiers

The digits of a ULID have the most significant one in front and are ordered as their bytes are, so
the texts of identifiers of a resource are in the order of their numbers (`bytesOf_lt_iff`,
`textBytes_toString_lt_iff`).
-/

namespace GameGateway

open Wire (Byte)
open Wire.Handshake (textBytes textBytes_append textBytes_ofList textBytes_injective)

/-- What stands behind decides only where what stands in front is the same. -/
theorem append_lt_append_iff_of_length_eq {α : Type} [LT α] {l l' m m' : List α}
    (h : l.length = l'.length) : l ++ m < l' ++ m' ↔ l < l' ∨ l = l' ∧ m < m' := by
  induction l generalizing l' with
  | nil =>
    obtain rfl := List.eq_nil_of_length_eq_zero h.symm
    simp
  | cons a l ih =>
    obtain ⟨b, l', rfl⟩ := List.exists_cons_of_length_eq_add_one h.symm
    rw [List.cons_append, List.cons_append, List.cons_lt_cons_iff, List.cons_lt_cons_iff,
      ih (Nat.succ.inj h), List.cons.injEq, and_or_left, or_assoc, and_assoc]

/-! ### Digits -/

namespace Ulid

variable {count m n : Nat}

theorem digitsOf_inj (hm : m < 32 ^ count) (hn : n < 32 ^ count)
    (h : digitsOf count m = digitsOf count n) : m = n := by
  have hvalue := valueOf?_digitsOf count m
  rw [h, valueOf?_digitsOf, Option.some_inj, Nat.mod_eq_of_lt hm, Nat.mod_eq_of_lt hn] at hvalue
  exact hvalue.symm

/-- The bytes of the last digits of a number. -/
def bytesOf (count n : Nat) : List Byte :=
  textBytes (String.ofList (digitsOf count n))

theorem length_bytesOf : (bytesOf count n).length = count :=
  utf8ByteSize_digitsOf count n

theorem bytesOf_succ : bytesOf (count + 1) n =
    bytesOf count (n / 32) ++ String.utf8EncodeChar (digit (n % 32)) := by
  rw [bytesOf, digitsOf, String.ofList_append, textBytes_append,
    textBytes_ofList [digit (n % 32)], List.flatMap_singleton]
  rfl

theorem bytesOf_inj (hm : m < 32 ^ count) (hn : n < 32 ^ count) :
    bytesOf count m = bytesOf count n ↔ m = n := by
  refine ⟨fun h => digitsOf_inj hm hn ?_, fun h => h ▸ rfl⟩
  exact String.ofList_injective (textBytes_injective h)

/-- Greater digits have greater bytes. -/
theorem utf8EncodeChar_digit_lt_iff (hm : m < 32) (hn : n < 32) :
    String.utf8EncodeChar (digit m) < String.utf8EncodeChar (digit n) ↔ m < n := by
  have hall : ∀ m < 32, ∀ n < 32,
      String.utf8EncodeChar (digit m) < String.utf8EncodeChar (digit n) ↔ m < n := by decide
  exact hall m hm n hn

/-- **Digits are in the order of the numbers.** -/
theorem bytesOf_lt_iff (hm : m < 32 ^ count) (hn : n < 32 ^ count) :
    bytesOf count m < bytesOf count n ↔ m < n := by
  induction count generalizing m n with
  | zero =>
    rw [Nat.pow_zero] at hm hn
    obtain rfl : m = 0 := by omega
    obtain rfl : n = 0 := by omega
    simp [bytesOf, digitsOf, textBytes]
  | succ count ih =>
    rw [Nat.pow_succ'] at hm hn
    have hm' : m / 32 < 32 ^ count := Nat.div_lt_of_lt_mul hm
    have hn' : n / 32 < 32 ^ count := Nat.div_lt_of_lt_mul hn
    -- the digits in front decide, and the last one where they are the same
    rw [bytesOf_succ, bytesOf_succ,
      append_lt_append_iff_of_length_eq (by rw [length_bytesOf, length_bytesOf]), ih hm' hn',
      bytesOf_inj hm' hn',
      utf8EncodeChar_digit_lt_iff (Nat.mod_lt _ (by decide)) (Nat.mod_lt _ (by decide))]
    omega

theorem toNat_lt (u : Ulid) : u.toNat < 32 ^ length :=
  Nat.lt_of_lt_of_le u.toFin.isLt (by decide)

end Ulid

/-! ### Identifiers -/

namespace Id

variable {r : Resource} {a b : Id r}

/-- Identifiers of a resource are ordered as the bytes of their texts are. -/
theorem textBytes_toString_lt_iff : textBytes a.toString < textBytes b.toString ↔ a < b := by
  rw [Id.toString, Id.toString, textBytes_append _ a.ulid.toString,
    textBytes_append _ b.ulid.toString, append_lt_append_iff_of_length_eq rfl]
  have hirrefl : ¬textBytes (r.tag ++ "_") < textBytes (r.tag ++ "_") := List.lt_irrefl _
  simp only [hirrefl, true_and, false_or]
  exact Ulid.bytesOf_lt_iff a.ulid.toNat_lt b.ulid.toNat_lt

/-- **Identifiers embed the ULIDs in order.** For every resource, the text of an identifier is read
back, texts are in the order of the numbers, and a text is refused where another resource's is
expected, naming both tags; so no text is that of identifiers of two resources. -/
theorem embeds_in_order (r : Resource) (a b : Ulid) :
    parse r (⟨a⟩ : Id r).toString = .ok ⟨a⟩ ∧
    (a.toNat < b.toNat ↔
      textBytes (⟨a⟩ : Id r).toString < textBytes (⟨b⟩ : Id r).toString) ∧
    ∀ r', r' ≠ r →
      parse r' (⟨a⟩ : Id r).toString = .error (.wrongTag r'.tag r.tag) ∧
      (⟨a⟩ : Id r).toString ≠ (⟨b⟩ : Id r').toString :=
  ⟨parse_toString _, textBytes_toString_lt_iff.symm,
    fun _ h => ⟨parse_toString_of_ne h _, toString_ne (Ne.symm h) _ _⟩⟩

end Id

end GameGateway
