import GameGateway.Wire.Error

/-!
# Variable-length integers

A **varint** writes a 32-bit word in groups of seven bits, least significant group first, one
group to a byte; the high bit of a byte announces a further one. A word never needs more than
five groups. Negative numbers go through their two's complement and take all five.

`encode` writes the fewest groups, `decode` accepts any number of groups up to five, and keeps
of their value what fits a word. `Progress` reads the same format from a stream, a byte at a
time.

Main statements: an encoding has `encodedLength` bytes (`length_encode`) and `decode` undoes
`encode` in front of any bytes (`decode_encode_append`).
-/

namespace GameGateway.Wire.Varint

/-- The most groups that a 32-bit word takes. -/
def maxLength : Nat := 5

/-- The word whose bits are the low 32 bits of `n`, read as a signed number. -/
def ofNat (n : Nat) : Int32 :=
  (UInt32.ofNat n).toInt32

/-- A byte **continues** a varint when its high bit is set. -/
def continues (b : Byte) : Bool :=
  128 ≤ b

/-- The seven bits that a byte contributes. -/
def group (b : Byte) : Nat :=
  b.toNat % 128

/-! ### Writing -/

/-- The groups of `n` on one byte and at most `more` further ones. -/
def groups : (more : Nat) → (n : Nat) → List Byte
  | 0, n => [UInt8.ofNat n]
  | more + 1, n =>
    if n < 128 then [UInt8.ofNat n]
    else UInt8.ofNat (n % 128 + 128) :: groups more (n / 128)

/-- The shortest varint of a word. -/
def encode (v : Int32) : List Byte :=
  groups 4 v.toUInt32.toNat

/-- The number of bytes that `encode` writes: one for every seven bits begun. -/
def encodedLength (v : Int32) : Nat :=
  let n := v.toUInt32.toNat
  if n < 1 <<< 7 then 1
  else if n < 1 <<< 14 then 2
  else if n < 1 <<< 21 then 3
  else if n < 1 <<< 28 then 4
  else 5

/-- A number is written in as many bytes as are reckoned for it. -/
theorem length_encode (v : Int32) : (encode v).length = encodedLength v := by
  simp only [encode, encodedLength, groups]
  generalize v.toUInt32.toNat = n
  repeat' split
  all_goals first | rfl | (exfalso; omega)

/-! ### Reading from bytes -/

/-- The value of the groups at the front of the bytes, of which there are at most `most`, and the
bytes that follow. -/
def decodeGroups : (most : Nat) → List Byte → Except Refusal Nat × List Byte
  | 0, bytes => (.error .varintTooLong, bytes)
  | _ + 1, [] => (.error (.truncated .varint), [])
  | most + 1, b :: rest =>
    if continues b then
      let (value, rest) := decodeGroups most rest
      (value.map fun n => group b + 128 * n, rest)
    else
      (.ok (group b), rest)

/-- The varint at the front of the bytes, and the bytes that follow. -/
def decode (bytes : List Byte) : Except Refusal Int32 × List Byte :=
  let (value, rest) := decodeGroups maxLength bytes
  (value.map ofNat, rest)

theorem group_ofNat {n : Nat} (h : n < 128) : group (UInt8.ofNat n) = n := by
  simp only [group, UInt8.toNat_ofNat']
  omega

theorem continues_ofNat {n : Nat} (h : n < 256) :
    continues (UInt8.ofNat n) = decide (128 ≤ n) := by
  simp only [continues, UInt8.le_iff_toNat_le, UInt8.toNat_ofNat']
  rw [Nat.mod_eq_of_lt (by omega)]
  rfl

/-- The number of values that one group and `more` further ones can have. -/
def capacity : (more : Nat) → Nat
  | 0 => 128
  | more + 1 => 128 * capacity more

/-- Groups that are written are read back, as far as they are few enough. -/
theorem decodeGroups_groups {more n : Nat} (h : n < capacity more) (rest : List Byte) :
    decodeGroups (more + 1) (groups more n ++ rest) = (.ok n, rest) := by
  induction more generalizing n with
  | zero =>
    have hn : n < 128 := h
    simp [groups, decodeGroups, continues_ofNat (show n < 256 by omega), Nat.not_le.2 hn,
      group_ofNat hn]
  | succ more ih =>
    rw [groups]
    split
    · next hn =>
      simp [decodeGroups, continues_ofNat (show n < 256 by omega), Nat.not_le.2 hn, group_ofNat hn]
    · next hn =>
      have hd : n / 128 < capacity more := by
        rw [capacity] at h
        omega
      have hm : n % 128 + 128 < 256 := by omega
      have hg : group (UInt8.ofNat (n % 128 + 128)) = n % 128 := by
        simp only [group, UInt8.toNat_ofNat']
        omega
      rw [List.cons_append, decodeGroups, if_pos (by rw [continues_ofNat hm]; simp), ih hd]
      simp only [Except.map, hg]
      rw [Nat.mod_add_div]

/-- Reading undoes writing, whatever follows. -/
theorem decode_encode_append (v : Int32) (rest : List Byte) :
    decode (encode v ++ rest) = (.ok v, rest) := by
  have h : v.toUInt32.toNat < capacity 4 := Nat.lt_trans v.toUInt32.toNat_lt (by decide)
  simp only [decode, encode, maxLength, decodeGroups_groups h]
  simp [Except.map, ofNat, UInt32.ofNat_toNat]

/-! ### Reading from a stream -/

/-- How far a varint has been **read from a stream**: the bytes taken and their value so far. -/
structure Progress where
  taken : Nat := 0
  value : Nat := 0
  deriving DecidableEq, Repr

/-- What a further byte makes of a varint in progress. -/
inductive Progress.Step where
  | more (progress : Progress)
  | done (value : Int32)
  | refused (cause : Refusal)
  deriving DecidableEq, Repr

/-- Takes one byte; the fifth byte is the last that may be taken. -/
def Progress.take (p : Progress) (b : Byte) : Progress.Step :=
  let value := p.value + group b <<< (7 * p.taken)
  if continues b then
    if p.taken + 1 < maxLength then .more ⟨p.taken + 1, value⟩ else .refused .varintTooLong
  else
    .done (ofNat value)

/-- Reads a varint from a stream of bytes, and leaves the bytes that follow in it. -/
def Progress.run (p : Progress) : List Byte → Except Refusal Int32 × List Byte
  | [] => (.error .endOfStream, [])
  | b :: rest =>
    match p.take b with
    | .more p => p.run rest
    | .done value => (.ok value, rest)
    | .refused cause => (.error cause, rest)

/-- Reads a varint from the start of a stream. -/
def read (stream : List Byte) : Except Refusal Int32 × List Byte :=
  ({} : Progress).run stream

end GameGateway.Wire.Varint
