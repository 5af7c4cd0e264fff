import GameGateway.Net.IpAddress
import GameGateway.Proofs.Text.Trimming

/-!
# What addresses are written with

The text of an address is written with hexadecimal digits, points and colons only
(`plain_toString`). So it is printable, has no comma in it and no blanks around it: as an item of a
list it stays what it is.
-/

namespace GameGateway.IpAddress

variable {c : Char} {s t sep : String} {l : List String}

/-- The characters that texts of addresses are made of. -/
def alphabet : List Char :=
  "0123456789abcdef.:".toList

/-- A text is **plain** when it is made of the characters of addresses. -/
def Plain (s : String) : Prop :=
  ∀ c ∈ s.toList, c ∈ alphabet

instance : Decidable (Plain s) :=
  decidable_of_iff (s.toList.all (· ∈ alphabet) = true) (by simp [Plain])

theorem Plain.append (hs : Plain s) (ht : Plain t) : Plain (s ++ t) := by
  intro c hc
  rw [String.toList_append, List.mem_append] at hc
  exact hc.elim (hs c) (ht c)

theorem Plain.intercalate (hsep : Plain sep) (hl : ∀ s ∈ l, Plain s) :
    Plain (sep.intercalate l) := by
  induction l with
  | nil => exact nofun
  | cons s l ih =>
    have hs : Plain s := hl s List.mem_cons_self
    cases l with
    | nil => rwa [String.intercalate_singleton]
    | cons t l =>
      rw [String.intercalate_cons_cons]
      exact (hs.append hsep).append (ih fun s hs => hl s (List.mem_cons_of_mem _ hs))

/-- What holds of the characters of addresses holds of those of a plain text. -/
theorem Plain.of_all {p : Char → Bool} (hs : Plain s) (hp : alphabet.all p = true)
    (hc : c ∈ s.toList) : p c = true :=
  List.all_eq_true.mp hp c (hs c hc)

/-! ### Writing -/

/-- Digits up to the base of sixteen are characters of addresses. -/
theorem mem_alphabet_of_mem_toDigits {b n : Nat} (hb : 1 < b) (hb' : b ≤ 16)
    (hc : c ∈ Nat.toDigits b n) : c ∈ alphabet := by
  have hdigit : ∀ d < 16, Nat.digitChar d ∈ alphabet := by decide
  induction n using Nat.strongRecOn with
  | ind n ih =>
    rw [Nat.toDigits_eq_if hb] at hc
    split at hc
    · rw [List.mem_singleton.mp hc]
      exact hdigit n (by omega)
    · rw [List.mem_append, List.mem_singleton] at hc
      rcases hc with hc | rfl
      · exact ih (n / b) (Nat.div_lt_self (by omega) hb) hc
      · exact hdigit _ (Nat.lt_of_lt_of_le (Nat.mod_lt n (by omega)) hb')

theorem plain_writeOctets (octets : List UInt8) : Plain (writeOctets octets) := by
  refine Plain.intercalate (by decide) fun s hs => ?_
  obtain ⟨octet, -, rfl⟩ := List.mem_map.mp hs
  intro c hc
  have hrepr : (toString octet.toNat).toList = Nat.toDigits 10 octet.toNat := Nat.toList_repr
  rw [hrepr] at hc
  exact mem_alphabet_of_mem_toDigits (by decide) (by decide) hc

theorem plain_writeGroups (groups : List UInt16) : Plain (writeGroups groups) := by
  refine Plain.intercalate (by decide) fun s hs => ?_
  obtain ⟨group, -, rfl⟩ := List.mem_map.mp hs
  intro c hc
  rw [String.toList_ofList] at hc
  exact mem_alphabet_of_mem_toDigits (by decide) (by decide) hc

theorem plain_writeV6 (groups : List UInt16) : Plain (writeV6 groups) := by
  unfold writeV6
  split
  · exact Plain.append (by decide) (plain_writeOctets _)
  · dsimp only
    split
    · exact ((plain_writeGroups _).append (by decide)).append (plain_writeGroups _)
    · exact plain_writeGroups _

/-- **Addresses are written with digits, points and colons.** -/
theorem plain_toString (address : IpAddress) : Plain (toString address) := by
  cases address with
  | v4 octets => exact plain_writeOctets _
  | v6 groups => exact plain_writeV6 _

/-- **No address has a comma**, so that it is one item of a list. -/
theorem comma_notMem_toString (address : IpAddress) : ',' ∉ (toString address).toList :=
  fun hc => absurd (plain_toString address ',' hc) (by decide)

/-- No address has a blank to be trimmed. -/
theorem trim_toString (address : IpAddress) :
    Text.trim (toString address).toList = (toString address).toList := by
  have hblank : ∀ c ∈ (toString address).toList, Text.isBlank c = false := by
    intro c hc
    have hnot := (plain_toString address).of_all (p := fun c => !Text.isBlank c) (by decide) hc
    rwa [Bool.not_eq_true'] at hnot
  exact Text.trim_eq_self (fun c hc => hblank c (List.mem_of_mem_head? hc))
    fun c hc => hblank c (List.mem_of_getLast? hc)

end GameGateway.IpAddress
