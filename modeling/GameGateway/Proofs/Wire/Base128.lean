import GameGateway.Proofs.Except
import GameGateway.Proofs.Wire.Words
import Mathlib.Data.Nat.Digits.Lemmas

/-!
# Varints as numbers in base 128

The groups of a varint are the digits of a number, least significant digit first (`groups_iff`), and
the word that is read is what this number is modulo `2 ^ 32`, as a signed one (`ofNat_eq_iff`).
Nothing is read where all of the bytes that may be taken continue, and it depends on their number
alone how they are refused (`decode_eq_error_iff`).

With shifts and masks of words the same is read and written, and what is written are the fewest
bytes from which the word is read (`codec_base128`).
-/

namespace GameGateway.Wire.Varint

variable {most n : Nat} {bytes rest : List Byte} {v : Int32} {cause : Refusal}

/-! ### Digits -/

/-- What bytes are **worth** in base 128, the first of them being the least significant digit. -/
def worth (bytes : List Byte) : Nat :=
  ((bytes.map group).mapIdx fun i digit => digit * 128 ^ i).sum

theorem worth_nil : worth [] = 0 := rfl

theorem worth_cons (b : Byte) (bytes : List Byte) :
    worth (b :: bytes) = group b + 128 * worth bytes := by
  simp only [worth, ← Nat.ofDigits_eq_sum_mapIdx, List.map_cons, Nat.ofDigits_cons]

/-- **The groups of a number** are its digits in base 128, and all of their bytes but the last one
continue. -/
theorem groups_iff : Groups bytes n ↔
    1 ≤ bytes.length ∧ (∀ i, ∀ b ∈ bytes[i]?, continues b = true ↔ i + 1 < bytes.length) ∧
      n = worth bytes := by
  constructor
  · intro h
    induction h with
    | @last b hb =>
      have hworth : group b = worth [b] := by
        rw [worth_cons, worth_nil, Nat.mul_zero, Nat.add_zero]
      refine ⟨Nat.le_refl 1, fun i c hc => ?_, hworth⟩
      obtain ⟨hi, rfl⟩ := List.getElem?_eq_some_iff.mp hc
      simp [hb]
    | @more b bytes n hb _ ih =>
      obtain ⟨hpos, hcontinues, rfl⟩ := ih
      refine ⟨Nat.succ_le_succ (Nat.zero_le _), fun i c hc => ?_, (worth_cons b bytes).symm⟩
      cases i with
      | zero =>
        obtain rfl := Option.some.inj hc
        simpa [hb] using Nat.lt_of_succ_le hpos
      | succ i =>
        rw [hcontinues i c hc, List.length_cons]
        omega
  · induction bytes generalizing n with
    | nil => simp
    | cons b rest ih =>
      rintro ⟨-, hcontinues, rfl⟩
      have hb := hcontinues 0 b rfl
      rw [worth_cons]
      cases rest with
      | nil => exact .last (by simpa using hb)
      | cons c rest =>
        refine .more (hb.mpr (by simp)) (ih ⟨by simp, fun i d hd => ?_, rfl⟩)
        rw [hcontinues (i + 1) d hd, List.length_cons]
        omega

/-! ### Bytes that spell a word -/

theorem toInt_ofNat_eq_bmod (n : Nat) : (ofNat n).toInt = Int.bmod n (2 ^ 32) := by
  rw [← Int32.toInt_toBitVec, BitVec.toInt_eq_toNat_bmod, ← Int32.toBitVec_toUInt32,
    UInt32.toNat_toBitVec, toNat_toUInt32_ofNat, Int.natCast_mod, Int.emod_bmod]

theorem ofNat_eq_iff : ofNat n = v ↔ v.toInt = Int.bmod n (2 ^ 32) := by
  rw [← Int32.toInt_inj, toInt_ofNat_eq_bmod, eq_comm]

/-- **What bytes spell** is what they are worth, as far as a word has room for it. -/
theorem spells_iff_worth : Spells bytes v ↔
    1 ≤ bytes.length ∧ bytes.length ≤ maxLength ∧
      (∀ i, ∀ b ∈ bytes[i]?, continues b = true ↔ i + 1 < bytes.length) ∧
      v.toInt = Int.bmod (worth bytes) (2 ^ 32) := by
  rw [spells_iff]
  simp only [groups_iff, ofNat_eq_iff]
  constructor
  · rintro ⟨hlength, n, ⟨hpos, hcontinues, rfl⟩, hv⟩
    exact ⟨hpos, hlength, hcontinues, hv⟩
  · rintro ⟨hpos, hlength, hcontinues, hv⟩
    exact ⟨hlength, _, ⟨hpos, hcontinues, rfl⟩, hv⟩

/-! ### What is consumed -/

/-- Reading comes to an outcome and **consumes** `n` of the bytes for it: so many are there, and
what follows them is left. -/
def Consumes (bytes : List Byte) (n : Nat) (outcome : Except Refusal Int32) : Prop :=
  n ≤ bytes.length ∧ decode bytes = (outcome, bytes.drop n)

theorem consumes_ok_iff_spells :
    Consumes bytes n (.ok v) ↔ n ≤ bytes.length ∧ Spells (bytes.take n) v := by
  refine and_congr_right fun _ => ?_
  rw [decode_eq_ok_iff]
  constructor
  · rintro ⟨spelling, hspelling, hbytes⟩
    have hfront : spelling = bytes.take n := by
      conv_lhs at hbytes => rw [← List.take_append_drop n bytes]
      exact (List.append_cancel_right hbytes).symm
    exact hfront ▸ hspelling
  · intro h
    exact ⟨_, h, (List.take_append_drop n bytes).symm⟩

/-- **What a word is read from**: one to five bytes that are worth it, of which all but the last one
continue. -/
theorem consumes_ok_iff :
    Consumes bytes n (.ok v) ↔
      n ≤ bytes.length ∧ 1 ≤ n ∧ n ≤ maxLength ∧
        (∀ i < n, ∀ b ∈ bytes[i]?, continues b = true ↔ i + 1 < n) ∧
        v.toInt = Int.bmod (worth (bytes.take n)) (2 ^ 32) := by
  rw [consumes_ok_iff_spells]
  refine and_congr_right fun hn => ?_
  rw [spells_iff_worth, List.length_take_of_le hn]
  have hfront : (∀ i, ∀ b ∈ (bytes.take n)[i]?, continues b = true ↔ i + 1 < n) ↔
      ∀ i < n, ∀ b ∈ bytes[i]?, continues b = true ↔ i + 1 < n := by
    refine forall_congr' fun i => ?_
    by_cases hi : i < n
    · simp [hi]
    · simp [hi]
  rw [hfront]

/-- Nothing is read just when all of the bytes that may be taken continue; they are cut short when
they are fewer than that. -/
theorem decodeGroups_eq_error_iff :
    decodeGroups most bytes = (.error cause, rest) ↔
      (∀ b ∈ bytes.take most, continues b = true) ∧
        (if bytes.length < most then .truncated .varint else .varintTooLong) = cause ∧
        bytes.drop most = rest := by
  induction most generalizing bytes with
  | zero => simp [decodeGroups]
  | succ most ih =>
    cases bytes with
    | nil => simp [decodeGroups]
    | cons b tail =>
      rw [decodeGroups]
      by_cases hb : continues b = true
      · rw [if_pos hb]
        simp only [Prod.mk.injEq, Except.map_eq_error]
        rw [← Prod.mk.injEq, ih]
        simp [hb]
      · simp [hb]

theorem consumes_error_iff :
    Consumes bytes n (.error cause) ↔
      n = min maxLength bytes.length ∧ (∀ b ∈ bytes.take maxLength, continues b = true) ∧
        (if bytes.length < maxLength then .truncated .varint else .varintTooLong) = cause := by
  have hleft : n ≤ bytes.length ∧ bytes.drop maxLength = bytes.drop n ↔
      n = min maxLength bytes.length := by
    constructor
    · rintro ⟨hn, hdrop⟩
      have hlength := congrArg List.length hdrop
      rw [List.length_drop, List.length_drop] at hlength
      omega
    · rintro rfl
      refine ⟨Nat.min_le_right _ _, ?_⟩
      rcases Nat.le_total maxLength bytes.length with hle | hle
      · rw [Nat.min_eq_left hle]
      · rw [Nat.min_eq_right hle, List.drop_length, List.drop_of_length_le hle]
  rw [Consumes, decode, Prod.mk.injEq, Except.map_eq_error, ← Prod.mk.injEq,
    decodeGroups_eq_error_iff, ← hleft]
  tauto

/-- Bytes are **cut short** when they are too few and all continue. -/
theorem consumes_truncated_iff :
    Consumes bytes n (.error (.truncated .varint)) ↔
      n = bytes.length ∧ bytes.length < maxLength ∧ ∀ b ∈ bytes, continues b = true := by
  rw [consumes_error_iff]
  by_cases hlength : bytes.length < maxLength
  · rw [List.take_of_length_le hlength.le, min_eq_right hlength.le]
    simp [hlength]
  · simp [hlength]

/-- Bytes are **too long** for a varint when as many as it may have all continue. -/
theorem consumes_tooLong_iff :
    Consumes bytes n (.error .varintTooLong) ↔
      n = maxLength ∧ maxLength ≤ bytes.length ∧
        ∀ b ∈ bytes.take maxLength, continues b = true := by
  rw [consumes_error_iff]
  by_cases hlength : bytes.length < maxLength
  · simp [hlength]
  · rw [min_eq_left (Nat.not_lt.mp hlength)]
    simp [hlength, Nat.not_lt.mp hlength]

/-- **Varints in base 128.** Shifts and masks of words read and write the same. A word is read from
`n` bytes just when these are one to five, all but the last one continue, and the word is what they
are worth modulo `2 ^ 32`, as a signed number. Fewer than five bytes that all continue are cut
short, and where the first five continue, the varint is too long and they are consumed. What is
written for a word has the length that is said, is read as the word, whatever follows it, and the
word is read from no fewer bytes. -/
theorem codec_in_base128 (bytes : List Byte) (v : Int32) :
    (decode bytes = gather 0 5 bytes ∧ encode v = spread v.toUInt32) ∧
    (∀ n, Consumes bytes n (.ok v) ↔
      n ≤ bytes.length ∧ 1 ≤ n ∧ n ≤ 5 ∧
        (∀ i < n, ∀ b ∈ bytes[i]?, continues b = true ↔ i + 1 < n) ∧
        v.toInt = Int.bmod (worth (bytes.take n)) (2 ^ 32)) ∧
    (∀ n, Consumes bytes n (.error (.truncated .varint)) ↔
      n = bytes.length ∧ bytes.length < 5 ∧ ∀ b ∈ bytes, continues b = true) ∧
    (∀ n, Consumes bytes n (.error .varintTooLong) ↔
      n = 5 ∧ 5 ≤ bytes.length ∧ ∀ b ∈ bytes.take 5, continues b = true) ∧
    (encode v).length = encodedLength v ∧ (∀ rest, decode (encode v ++ rest) = (.ok v, rest)) ∧
    ∀ n, Consumes bytes n (.ok v) → encodedLength v ≤ n := by
  refine ⟨⟨decode_eq_gather bytes, encode_eq_spread v⟩, fun n => consumes_ok_iff,
    fun n => consumes_truncated_iff, fun n => consumes_tooLong_iff, length_encode v,
    decode_encode_append v, fun n h => ?_⟩
  obtain ⟨hn, hspells⟩ := consumes_ok_iff_spells.mp h
  rw [← List.length_take_of_le hn]
  exact hspells.encodedLength_le

/-- Three bytes more than the word takes, and in the last of them three bits that it has no room
for. -/
theorem codec_in_base128_overlong :
    let bytes : List Byte := [0xAC, 0x82, 0x80, 0x80, 0x70, 0x99]
    Consumes bytes 5 (.ok 300) ∧ worth (bytes.take 5) = 300 + 7 * 2 ^ 32 ∧
      encode 300 = [0xAC, 0x02] ∧ encodedLength 300 ≤ 5 := by
  intro bytes
  have hread : Consumes bytes 5 (.ok 300) := ⟨by decide, rfl⟩
  obtain ⟨-, -, -, -, -, -, hfewest⟩ := codec_in_base128 bytes 300
  exact ⟨hread, by decide, by decide, hfewest 5 hread⟩

end GameGateway.Wire.Varint
