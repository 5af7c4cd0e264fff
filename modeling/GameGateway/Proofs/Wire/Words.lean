import GameGateway.Proofs.Wire.Varint
import Mathlib.Data.Nat.Bitwise

/-!
# Varints in words

A varint may be read and written with shifts and masks of a 32-bit word. `gather` puts seven bits
of each byte above those of the bytes before it, and loses what the word has no room for; `spread`
takes the lowest seven bits off a word for each byte, until no others are left.

Both are arithmetic in base 128. Bits that are put together do not overlap (`toNat_putAbove`), so
the word that is read is the value of the groups modulo `2 ^ 32` (`decode_eq_gather`), and the bytes
that are written are the groups of the word (`encode_eq_spread`).
-/

namespace GameGateway.Wire.Varint

variable {word : UInt32} {taken most more : Nat}

/-! ### Masks -/

theorem toNat_and_groupMask (b : Byte) : (b &&& 0x7F).toNat = group b := by
  rw [UInt8.toNat_and]
  exact Nat.and_two_pow_sub_one_eq_mod b.toNat 7

theorem toNat_and_wordMask (word : UInt32) : (word &&& 0x7F).toNat = word.toNat % 128 := by
  rw [UInt32.toNat_and]
  exact Nat.and_two_pow_sub_one_eq_mod word.toNat 7

/-- A byte continues when its high bit is set. -/
theorem and_highBit_eq_zero_iff (b : Byte) : b &&& 0x80 = 0 ↔ continues b = false := by
  have hbit : (b &&& 0x80).toNat = (b.toNat.testBit 7).toNat * 2 ^ 7 := by
    rw [UInt8.toNat_and]
    exact Nat.and_two_pow b.toNat 7
  have hset : b.toNat.testBit 7 = true ↔ 128 ≤ b.toNat := by
    have hlt : b.toNat < 2 ^ 8 := b.toNat_lt
    rw [Nat.testBit_eq_decide_div_mod_eq, decide_eq_true_iff]
    omega
  rw [← UInt8.toNat_inj, hbit, continues, decide_eq_false_iff_not, UInt8.le_iff_toNat_le]
  change _ ↔ ¬ 128 ≤ b.toNat
  rw [← hset]
  cases b.toNat.testBit 7 <;> simp

/-- A word has no bits but those of a mask just when the mask leaves it as it is. -/
theorem and_not_eq_zero_iff (word mask : UInt32) :
    word &&& ~~~mask = 0 ↔ word &&& mask = word := by
  rw [← UInt32.toBitVec_inj, ← UInt32.toBitVec_inj]
  simp only [UInt32.toBitVec_and, UInt32.toBitVec_not, UInt32.toBitVec_zero,
    BitVec.eq_of_getElem_eq_iff, BitVec.getElem_and, BitVec.getElem_not, BitVec.getElem_zero]
  refine forall₂_congr fun i hi => ?_
  cases word.toBitVec[i] <;> simp

theorem and_not_wordMask_eq_zero_iff : word &&& ~~~0x7F = 0 ↔ word.toNat < 128 := by
  rw [and_not_eq_zero_iff, ← UInt32.toNat_inj, toNat_and_wordMask]
  omega

theorem toNat_shiftRight_seven (word : UInt32) : (word >>> 7).toNat = word.toNat / 128 := by
  rw [UInt32.toNat_shiftRight]
  exact Nat.shiftRight_eq_div_pow word.toNat 7

/-! ### Reading -/

/-- Puts the seven bits of a byte **above** those of the bytes that were taken before. -/
def putAbove (word : UInt32) (taken : Nat) (b : Byte) : UInt32 :=
  word ||| (b &&& 0x7F).toUInt32 <<< UInt32.ofNat (7 * taken)

/-- **Gathers** a word from the bytes at the front, of which there are at most `most`. -/
def gather (word : UInt32) : (most : Nat) → List Byte → Except Refusal Int32 × List Byte
  | 0, bytes => (.error .varintTooLong, bytes)
  | _ + 1, [] => (.error (.truncated .varint), [])
  | most + 1, b :: rest =>
    let word := putAbove word (maxLength - (most + 1)) b
    if b &&& 0x80 = 0 then (.ok word.toInt32, rest) else gather word most rest

/-- **Bits that are put above others** add their value to them, as far as the word has room. -/
theorem toNat_putAbove (htaken : taken < maxLength) (hword : word.toNat < 2 ^ (7 * taken))
    (b : Byte) :
    (putAbove word taken b).toNat = (word.toNat + group b <<< (7 * taken)) % 2 ^ 32 := by
  have hshift : (UInt32.ofNat (7 * taken)).toNat % 32 = 7 * taken := by
    rw [UInt32.toNat_ofNat']
    unfold maxLength at htaken
    omega
  calc (putAbove word taken b).toNat
      = word.toNat ||| group b <<< (7 * taken) % 2 ^ 32 := by
        rw [putAbove, UInt32.toNat_or, UInt32.toNat_shiftLeft, hshift, UInt8.toNat_toUInt32,
          toNat_and_groupMask]
    _ = (group b <<< (7 * taken) ||| word.toNat) % 2 ^ 32 := by
        rw [Nat.or_mod_two_pow, Nat.mod_eq_of_lt word.toNat_lt, Nat.or_comm]
    _ = (word.toNat + group b <<< (7 * taken)) % 2 ^ 32 := by
        rw [← Nat.shiftLeft_add_eq_or_of_lt hword, Nat.add_comm]

/-- The bits of one more byte take seven places more. -/
theorem add_shiftLeft_lt {n : Nat} (hn : n < 2 ^ (7 * taken)) (b : Byte) :
    n + group b <<< (7 * taken) < 2 ^ (7 * (taken + 1)) := by
  have hb : group b < 128 := Nat.mod_lt _ (by decide)
  calc n + group b <<< (7 * taken)
      < 2 ^ (7 * taken) + 127 * 2 ^ (7 * taken) := by
        rw [Nat.shiftLeft_eq]
        exact Nat.add_lt_add_of_lt_of_le hn (Nat.mul_le_mul_right _ (by omega))
    _ = 2 ^ (7 * (taken + 1)) := by
        rw [Nat.mul_succ, Nat.pow_add]
        omega

/-- Numbers that agree in their low 32 bits are the same word. -/
theorem ofNat_congr {m n : Nat} (h : m % 2 ^ 32 = n % 2 ^ 32) : ofNat m = ofNat n := by
  have hword : UInt32.ofNat m = UInt32.ofNat n := by
    rw [← UInt32.toNat_inj, UInt32.toNat_ofNat', UInt32.toNat_ofNat', h]
  rw [ofNat, ofNat, hword]

theorem ofNat_toNat (word : UInt32) : ofNat word.toNat = word.toInt32 := by
  rw [ofNat, UInt32.ofNat_toNat]

/-- Gathering adds the groups that are read to the word. -/
theorem gather_eq (hmost : taken + most = maxLength) (hword : word.toNat < 2 ^ (7 * taken))
    (bytes : List Byte) :
    gather word most bytes =
      ((decodeGroups most bytes).1.map fun n => ofNat (word.toNat + n <<< (7 * taken)),
        (decodeGroups most bytes).2) := by
  induction most generalizing word taken bytes with
  | zero => rfl
  | succ most ih =>
    cases bytes with
    | nil => rfl
    | cons b rest =>
      have htaken : maxLength - (most + 1) = taken := by omega
      have hput := toNat_putAbove (show taken < maxLength by omega) hword b
      rw [gather, decodeGroups, htaken]
      by_cases hb : continues b = true
      · have hbit : ¬ b &&& 0x80 = 0 := by simp [and_highBit_eq_zero_iff, hb]
        have hlt : (putAbove word taken b).toNat < 2 ^ (7 * (taken + 1)) :=
          hput ▸ Nat.lt_of_le_of_lt (Nat.mod_le _ _) (add_shiftLeft_lt hword b)
        simp only [hb, hbit, if_true, if_false]
        rw [ih (show taken + 1 + most = maxLength by omega) hlt]
        rcases decodeGroups most rest with ⟨cause | m, rest'⟩
        · rfl
        · have hvalue := value_add_shiftLeft ⟨taken, word.toNat⟩ (group b) m
          have hmod : ofNat ((putAbove word taken b).toNat + m <<< (7 * (taken + 1))) =
              ofNat (word.toNat + (group b + 128 * m) <<< (7 * taken)) :=
            ofNat_congr (by rw [hput, Nat.mod_add_mod, hvalue])
          simp only [Except.map, hmod]
      · have hbit : b &&& 0x80 = 0 := by simp [and_highBit_eq_zero_iff, hb]
        have hmod : (putAbove word taken b).toInt32 =
            ofNat (word.toNat + group b <<< (7 * taken)) := by
          rw [← ofNat_toNat]
          exact ofNat_congr (by rw [hput, Nat.mod_mod])
        simp only [hb, hbit, if_true, if_false, Bool.false_eq_true, Except.map, hmod]

/-- **Reading with shifts and masks** is reading in base 128. -/
theorem decode_eq_gather (bytes : List Byte) : decode bytes = gather 0 maxLength bytes := by
  have hzero : (0 : UInt32).toNat < 2 ^ (7 * 0) := by decide
  rw [gather_eq (Nat.zero_add _) hzero, decode]
  simp

/-! ### Writing -/

/-- **Spreads** a word over bytes, from its lowest bits on. -/
def spread (word : UInt32) : List Byte :=
  if word &&& ~~~0x7F = 0 then [word.toUInt8]
  else ((word &&& 0x7F).toUInt8 ||| 0x80) :: spread (word >>> 7)
termination_by word.toNat
decreasing_by
  rename_i h
  rw [and_not_wordMask_eq_zero_iff] at h
  rw [toNat_shiftRight_seven]
  omega

/-- The byte that another one follows: a group below a high bit that is set. -/
theorem groupMask_or_highBit (word : UInt32) :
    (word &&& 0x7F).toUInt8 ||| 0x80 = UInt8.ofNat (word.toNat % 128 + 128) := by
  have hgroup : word.toNat % 128 < 2 ^ 7 := Nat.mod_lt _ (by decide)
  have hor : word.toNat % 128 ||| 128 = word.toNat % 128 + 128 := by
    have hadd := Nat.two_pow_add_eq_or_of_lt hgroup 1
    rw [Nat.or_comm, Nat.add_comm]
    exact hadd.symm
  rw [← UInt8.toNat_inj, UInt8.toNat_or, UInt32.toNat_toUInt8, toNat_and_wordMask,
    UInt8.toNat_ofNat', Nat.mod_eq_of_lt (show word.toNat % 128 < 2 ^ 8 by omega),
    Nat.mod_eq_of_lt (show word.toNat % 128 + 128 < 2 ^ 8 by omega)]
  exact hor

theorem spread_eq (h : word.toNat < capacity more) : spread word = groups more word.toNat := by
  induction more generalizing word with
  | zero =>
    have hlt : word.toNat < 128 := h
    rw [spread, if_pos (and_not_wordMask_eq_zero_iff.mpr hlt), ← UInt8.ofNat_uInt32ToNat, groups]
  | succ more ih =>
    rw [groups]
    by_cases hlt : word.toNat < 128
    · rw [if_pos hlt, spread, if_pos (and_not_wordMask_eq_zero_iff.mpr hlt),
        ← UInt8.ofNat_uInt32ToNat]
    · have hrest : (word >>> 7).toNat < capacity more := by
        rw [toNat_shiftRight_seven]
        rw [capacity] at h
        omega
      rw [if_neg hlt, spread, if_neg (mt and_not_wordMask_eq_zero_iff.mp hlt),
        groupMask_or_highBit, ih hrest, toNat_shiftRight_seven]

/-- **Writing with shifts and masks** is writing in base 128. -/
theorem encode_eq_spread (v : Int32) : encode v = spread v.toUInt32 :=
  (spread_eq (Nat.lt_trans v.toUInt32.toNat_lt (by decide))).symm

end GameGateway.Wire.Varint
