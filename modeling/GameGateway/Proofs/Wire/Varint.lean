import GameGateway.Wire.Varint
import Mathlib.Algebra.Group.Nat.Defs

/-!
# Spellings of varints

A word is **spelled** by bytes that are read as it to the last one. It may be spelled in more groups
than its value takes, or with bits that no word has room for, but never in fewer bytes than `encode`
writes (`Spells.encodedLength_le`). What reading takes off the front of bytes is a spelling
(`decode_eq_ok_iff`). A count below `2 ^ 31` is written as itself (`toInt_ofNat`).

On a stream that ends with the bytes at hand, the same is read from it and as many bytes are taken,
but that its end is an error of its own (`read_eq`).
-/

namespace GameGateway.Wire.Varint

/-- A count is taken as a word of 32 bits. -/
theorem toNat_toUInt32_ofNat (n : Nat) : (ofNat n).toUInt32.toNat = n % 2 ^ 32 := by
  rw [ofNat, UInt32.toUInt32_toInt32, UInt32.toNat_ofNat']

/-- Counts below `2 ^ 31` are not negative when they are read as signed words. -/
theorem toInt_ofNat {n : Nat} (h : n < 2 ^ 31) : (ofNat n).toInt = n := by
  have hn : (ofNat n).toBitVec.toNat = n := by
    rw [← Int32.toBitVec_toUInt32, UInt32.toNat_toBitVec, toNat_toUInt32_ofNat]
    omega
  rw [← Int32.toInt_toBitVec, BitVec.toInt_eq_toNat_of_lt (by omega), hn]

/-- A word that is not negative is the count that it says. -/
theorem ofNat_eq_of_toInt {v : Int32} {n : Nat} (h : v.toInt = n) : ofNat n = v := by
  have := v.toInt_lt
  rw [← Int32.toInt_inj, toInt_ofNat (by omega), h]

/-- No number takes more than five bytes. -/
theorem encodedLength_le (v : Int32) : encodedLength v ≤ maxLength := by
  simp only [encodedLength, maxLength]
  repeat' split
  all_goals omega

/-- What fits `k` groups is written in at most `k` bytes. -/
theorem encodedLength_le_of_lt {v : Int32} {k : Nat} (hk : 1 ≤ k)
    (h : v.toUInt32.toNat < 128 ^ k) : encodedLength v ≤ k := by
  simp only [encodedLength]
  generalize v.toUInt32.toNat = n at h
  -- the widths at which a further byte is needed are powers of 128
  rcases k with _ | _ | _ | _ | _ | k
  case zero => omega
  all_goals
    simp only [Nat.reduceAdd, Nat.reducePow, Nat.reduceShiftLeft] at h ⊢
    repeat' split
    all_goals omega

/-! ### Groups -/

/-- Bytes that are the **groups** of a number: all but the last one continue. -/
inductive Groups : List Byte → Nat → Prop
  | last {b : Byte} (hb : continues b = false) : Groups [b] (group b)
  | more {b : Byte} {bytes : List Byte} {n : Nat} (hb : continues b = true) (h : Groups bytes n) :
      Groups (b :: bytes) (group b + 128 * n)

variable {most n : Nat} {bytes rest spelling : List Byte} {v : Int32}

/-- There is no number without groups. -/
theorem Groups.length_pos (h : Groups bytes n) : 1 ≤ bytes.length := by
  cases h <;> simp

/-- A number fits its groups. -/
theorem Groups.lt (h : Groups bytes n) : n < 128 ^ bytes.length := by
  induction h with
  | @last b _ => exact Nat.mod_lt _ (by decide)
  | @more b bytes n _ _ ih =>
    have hg : group b < 128 := Nat.mod_lt _ (by decide)
    rw [List.length_cons, Nat.pow_succ]
    omega

/-- **Groups are read as their number**, and what follows them is left. -/
theorem Groups.decodeGroups_append (h : Groups bytes n) (hlength : bytes.length ≤ most)
    (rest : List Byte) : decodeGroups most (bytes ++ rest) = (.ok n, rest) := by
  induction h generalizing most with
  | @last b hb =>
    cases most with
    | zero => simp at hlength
    | succ most => simp [decodeGroups, hb]
  | @more b bytes n hb _ ih =>
    cases most with
    | zero => simp at hlength
    | succ most =>
      have hbytes : bytes.length ≤ most := Nat.le_of_succ_le_succ hlength
      rw [List.cons_append, decodeGroups, if_pos hb, ih hbytes]
      rfl

/-- Conversely, nothing but groups is read. -/
theorem exists_groups_of_decodeGroups (h : decodeGroups most bytes = (.ok n, rest)) :
    ∃ xs, xs.length ≤ most ∧ Groups xs n ∧ bytes = xs ++ rest := by
  induction most generalizing bytes n with
  | zero => simp [decodeGroups] at h
  | succ most ih =>
    cases bytes with
    | nil => simp [decodeGroups] at h
    | cons b bytes =>
      by_cases hb : continues b = true
      · rw [decodeGroups, if_pos hb] at h
        rcases hmore : decodeGroups most bytes with ⟨cause | m, rest'⟩
        · simp [hmore, Except.map] at h
        · rw [hmore] at h
          obtain ⟨hvalue, rfl⟩ := Prod.mk.inj h
          obtain rfl := Except.ok.inj hvalue
          obtain ⟨xs, hlength, hxs, rfl⟩ := ih hmore
          exact ⟨b :: xs, Nat.succ_le_succ hlength, .more hb hxs, rfl⟩
      · rw [decodeGroups, if_neg hb] at h
        obtain ⟨hvalue, rfl⟩ := Prod.mk.inj h
        obtain rfl := Except.ok.inj hvalue
        exact ⟨[b], by simp, .last (Bool.eq_false_iff.mpr hb), rfl⟩

/-- What is read are groups, and no more of them than may be. -/
theorem decodeGroups_eq_ok_iff : decodeGroups most bytes = (.ok n, rest) ↔
    ∃ xs, xs.length ≤ most ∧ Groups xs n ∧ bytes = xs ++ rest := by
  refine ⟨exists_groups_of_decodeGroups, ?_⟩
  rintro ⟨xs, hlength, hxs, rfl⟩
  exact hxs.decodeGroups_append hlength rest

/-- Groups that all announce a further one, and are not too many, are cut short. -/
theorem decodeGroups_of_continues (hlength : bytes.length < most)
    (h : ∀ b ∈ bytes, continues b = true) :
    decodeGroups most bytes = (.error (.truncated .varint), []) := by
  induction bytes generalizing most with
  | nil =>
    cases most with
    | zero => simp at hlength
    | succ most => rfl
  | cons b bytes ih =>
    cases most with
    | zero => simp at hlength
    | succ most =>
      rw [List.forall_mem_cons] at h
      rw [decodeGroups, if_pos h.1, ih (Nat.lt_of_succ_lt_succ hlength) h.2]
      rfl

/-! ### Spellings -/

/-- Bytes that **spell** a word: there are one to five of them, and reading takes them all. -/
structure Spells (spelling : List Byte) (v : Int32) : Prop where
  length_pos : 1 ≤ spelling.length
  length_le : spelling.length ≤ maxLength
  decode_eq : decode spelling = (.ok v, [])

/-- What is read as a number, told by its groups. -/
theorem decode_eq_ok_iff_groups : decode bytes = (.ok v, rest) ↔
    ∃ xs, xs.length ≤ maxLength ∧ (∃ n, Groups xs n ∧ ofNat n = v) ∧ bytes = xs ++ rest := by
  have hgroups : decode bytes = (.ok v, rest) ↔
      ∃ n, decodeGroups maxLength bytes = (.ok n, rest) ∧ ofNat n = v := by
    rw [decode]
    rcases decodeGroups maxLength bytes with ⟨cause | n, rest'⟩
    · simp [Except.map]
    · simp [Except.map, and_assoc, and_comm]
  simp only [hgroups, decodeGroups_eq_ok_iff]
  grind

/-- A spelling of a number is made of at most five groups of it, the bits beyond the word left
out. -/
theorem spells_iff : Spells spelling v ↔
    spelling.length ≤ maxLength ∧ ∃ n, Groups spelling n ∧ ofNat n = v := by
  constructor
  · intro h
    obtain ⟨xs, hlength, hxs, heq⟩ := decode_eq_ok_iff_groups.mp h.decode_eq
    rw [List.append_nil] at heq
    exact heq ▸ ⟨hlength, hxs⟩
  · rintro ⟨hlength, n, hn, hv⟩
    exact ⟨hn.length_pos, hlength,
      decode_eq_ok_iff_groups.mpr ⟨spelling, hlength, ⟨n, hn, hv⟩, (List.append_nil _).symm⟩⟩

/-- **What is read is spelled** by the bytes that are taken. -/
theorem decode_eq_ok_iff :
    decode bytes = (.ok v, rest) ↔ ∃ spelling, Spells spelling v ∧ bytes = spelling ++ rest := by
  rw [decode_eq_ok_iff_groups]
  simp only [spells_iff, and_assoc]

/-- What is written for a number spells it. -/
theorem spells_encode (v : Int32) : Spells (encode v) v where
  length_pos := by
    rw [length_encode, encodedLength]
    repeat' split
    all_goals decide
  length_le := by
    rw [length_encode]
    exact encodedLength_le v
  decode_eq := by simpa using decode_encode_append v []

theorem Spells.lt (h : Spells spelling v) : v.toUInt32.toNat < 128 ^ spelling.length := by
  obtain ⟨-, n, hn, rfl⟩ := spells_iff.mp h
  rw [toNat_toUInt32_ofNat]
  exact Nat.lt_of_le_of_lt (Nat.mod_le n _) hn.lt

/-- **No shorter writing**: a word is spelled in at least the bytes in which it is written. -/
theorem Spells.encodedLength_le (h : Spells spelling v) : encodedLength v ≤ spelling.length :=
  encodedLength_le_of_lt h.length_pos h.lt

/-- Bytes **spell a count** when they spell a word that says it. -/
def SpellsCount (spelling : List Byte) (n : Nat) : Prop :=
  ∃ v, Spells spelling v ∧ v.toInt = n

/-- A count is spelled in at least the bytes in which any smaller one is written. -/
theorem SpellsCount.encodedLength_le {m : Nat} (h : SpellsCount spelling n) (hm : m ≤ n) :
    encodedLength (ofNat m) ≤ spelling.length := by
  obtain ⟨v, hv, hn⟩ := h
  have hbound := v.toInt_lt
  have hlt := hv.lt
  rw [← ofNat_eq_of_toInt hn, toNat_toUInt32_ofNat, Nat.mod_eq_of_lt (by omega)] at hlt
  refine encodedLength_le_of_lt hv.length_pos ?_
  rw [toNat_toUInt32_ofNat, Nat.mod_eq_of_lt (by omega)]
  exact Nat.lt_of_le_of_lt hm hlt

/-! ### Reading from a stream -/

/-- What a refusal of bytes at hand is for a stream of them: that a stream ends is another error. -/
def onStream : Refusal → Refusal
  | .truncated .varint => .endOfStream
  | cause => cause

/-- The value of a varint in progress is that of the groups taken and those to come. -/
theorem value_add_shiftLeft (p : Progress) (g m : Nat) :
    p.value + g <<< (7 * p.taken) + m <<< (7 * (p.taken + 1)) =
      p.value + (g + 128 * m) <<< (7 * p.taken) := by
  simp only [Nat.shiftLeft_eq, Nat.mul_add, Nat.pow_add]
  grind

/-- Reading on comes to the same as reading the groups that are left at once. -/
theorem Progress.run_eq {p : Progress} (hp : p.taken + most + 1 = maxLength) :
    p.run bytes =
      (((decodeGroups (most + 1) bytes).1.map fun n =>
          ofNat (p.value + n <<< (7 * p.taken))).mapError onStream,
        (decodeGroups (most + 1) bytes).2) := by
  induction bytes generalizing most p with
  | nil => rfl
  | cons b rest ih =>
    rw [Progress.run, Progress.take, decodeGroups]
    by_cases hb : continues b = true
    · simp only [hb, if_true]
      cases most with
      | zero =>
        rw [if_neg (show ¬ p.taken + 1 < maxLength by omega)]
        rfl
      | succ most =>
        rw [if_pos (show p.taken + 1 < maxLength by omega)]
        simp only
        rw [ih (show p.taken + 1 + most + 1 = maxLength by omega)]
        rcases decodeGroups (most + 1) rest with ⟨cause | m, rest'⟩
        · rfl
        · simp only [Except.map, value_add_shiftLeft]
    · simp only [hb, Bool.false_eq_true, if_false]
      rfl

/-- **Reading from a stream agrees with reading from bytes**, in what is read and in what is left,
up to the error of the end. -/
theorem read_eq (bytes : List Byte) :
    read bytes = ((decode bytes).1.mapError onStream, (decode bytes).2) := by
  have htaken : ({} : Progress).taken + 4 + 1 = maxLength := rfl
  rw [read, Progress.run_eq htaken, decode, maxLength]
  simp

end GameGateway.Wire.Varint
