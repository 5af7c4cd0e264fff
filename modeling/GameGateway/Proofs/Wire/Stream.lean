import GameGateway.Proofs.Wire.RoundTrip
import GameGateway.Wire.FrameReader

/-!
# Handshakes in a stream

A stream is read a byte at a time, bytes at hand are read as a whole, and both come to the same: the
length of a frame is read alike (`Varint.read_eq`), and so is what stands behind it
(`FrameReader.run_payload`). Handshakes and refusals are those of the bytes, but that the end of the
stream within the length is an error of its own, and of the bytes just the frame is taken
(`reading_agrees`). So a handshake is taken off a stream just when the bytes begin with its frame,
and what is left is what stands behind that frame (`feed_start_eq_done_ok_iff`).
-/

namespace GameGateway.Wire

namespace Handshake

/-- The bytes **behind the frame** that bytes begin with. -/
def behindFrame (bytes : List Byte) : List Byte :=
  match decodeVarint bytes with
  | .ok (length, rest) => rest.drop length.toInt.toNat
  | .error _ => []

theorem behindFrame_encodeFrame_append {h : Handshake} (hn : h.payloadLength < 2 ^ 31)
    (rest : List Byte) : behindFrame (h.encodeFrame ++ rest) = rest := by
  rw [behindFrame, encodeFrame, encodeLength, List.append_assoc, decodeVarint_encode_append]
  simp only [Varint.toInt_ofNat hn, Int.toNat_natCast]
  rw [← length_encodePayload, List.drop_left]

/-! ### Frames of a length -/

variable {length : Int32} {bytes rest more : List Byte} {h : Handshake}

/-- What is read behind a length, and what is left: as many bytes are a payload. -/
def readBehind (length : Int32) (rest : List Byte) : Except Refusal Handshake × List Byte :=
  match checkLength length with
  | .error cause => (.error cause, rest)
  | .ok n =>
    if rest.length < n then (.error (.truncated .frame), [])
    else (decodePayload (rest.take n), rest.drop n)

theorem decodeFrame_eq (bytes : List Byte) :
    decodeFrame bytes =
      match Varint.decode bytes with
      | (.ok length, rest) => (readBehind length rest).1
      | (.error cause, _) => .error cause := by
  rw [decodeFrame, decodeVarint]
  rcases Varint.decode bytes with ⟨cause | length, rest⟩
  · rfl
  · simp only [Except.ok_bind, readBehind]
    cases checkLength length with
    | error cause => rfl
    | ok n => by_cases hshort : rest.length < n <;> simp [hshort]

/-- A handshake is read from a payload of the length that is said. -/
theorem readBehind_of_ok (hread : (readBehind length rest).1 = .ok h) :
    0 ≤ length.toInt ∧ length.toInt.toNat ≤ rest.length ∧
      (readBehind length rest).2 = rest.drop length.toInt.toNat := by
  cases hlength : checkLength length with
  | error cause => simp [readBehind, hlength] at hread
  | ok n =>
    obtain ⟨hn, -, -⟩ := checkLength_eq_ok_iff.mp hlength
    by_cases hshort : rest.length < n
    · simp [readBehind, hlength, hshort] at hread
    · rw [hn, Int.toNat_natCast]
      refine ⟨Int.natCast_nonneg n, Nat.not_lt.mp hshort, ?_⟩
      simp only [readBehind, hlength, hshort, if_false]

/-- Bytes behind a whole payload do not matter. -/
theorem readBehind_append (hle : length.toInt ≤ rest.length) :
    readBehind length (rest ++ more) =
      ((readBehind length rest).1, (readBehind length rest).2 ++ more) := by
  unfold readBehind
  cases hlength : checkLength length with
  | error cause => rfl
  | ok n =>
    obtain ⟨hn, -, -⟩ := checkLength_eq_ok_iff.mp hlength
    have hwhole : n ≤ rest.length := by omega
    have hwhole' : n ≤ (rest ++ more).length := by
      rw [List.length_append]
      omega
    simp only [Nat.not_lt.mpr hwhole, Nat.not_lt.mpr hwhole', if_false,
      List.take_append_of_le_length hwhole, List.drop_append_of_le_length hwhole]

end Handshake

/-! ### Frame readers -/

namespace FrameReader

open Varint Handshake

variable {reader : FrameReader} {bytes rest : List Byte}

theorem run_cons (reader : FrameReader) (b : Byte) (rest : List Byte) :
    reader.run (b :: rest) =
      match reader.take b with
      | .more reader => reader.run rest
      | .done result => (result, rest) := by
  rw [run, feed]
  cases reader.take b <;> rfl

theorem feed_eq_done_ok_iff {h : Handshake} :
    reader.feed bytes = .done (.ok h) rest ↔ reader.run bytes = (.ok h, rest) := by
  rw [run]
  cases reader.feed bytes <;> simp

/-- What becomes of bytes when `missing + 1` bytes of a payload are missing. -/
theorem run_payload (missing : Nat) (taken bytes : List Byte) :
    (payload (missing + 1) taken).run bytes =
      if bytes.length < missing + 1 then (.error (.truncated .frame), [])
      else (decodePayload (taken.reverse ++ bytes.take (missing + 1)),
        bytes.drop (missing + 1)) := by
  induction bytes generalizing missing taken with
  | nil => rfl
  | cons b rest ih =>
    rw [run_cons, take]
    cases missing with
    | zero => simp
    | succ missing =>
      rw [if_neg (by omega)]
      simp [ih]

/-- What becomes of bytes within the length of a payload, by what they are as a varint. -/
theorem run_length (p : Progress) (bytes : List Byte) :
    (length p).run bytes =
      match p.run bytes with
      | (.ok value, rest) => readBehind value rest
      | (.error cause, rest) => (.error cause, rest) := by
  induction bytes generalizing p with
  | nil => rfl
  | cons b rest ih =>
    -- the reader of the frame takes the same step as that of its varint
    rw [run_cons, take, Progress.run]
    cases p.take b with
    | more p => exact ih p
    | refused cause => rfl
    | done value =>
      simp only [readBehind]
      cases hlength : checkLength value with
      | error cause => rfl
      | ok n =>
        obtain ⟨-, hpos, -⟩ := checkLength_eq_ok_iff.mp hlength
        obtain ⟨missing, rfl⟩ := Nat.exists_eq_add_of_le' hpos
        exact run_payload missing [] rest

end FrameReader

/-! ### Reading from a stream -/

namespace Handshake

variable {bytes rest : List Byte} {h : Handshake}

theorem read_eq (bytes : List Byte) :
    read bytes =
      match Varint.decode bytes with
      | (.ok length, rest) => readBehind length rest
      | (.error cause, rest) => (.error (Varint.onStream cause), rest) := by
  rw [read, FrameReader.start, FrameReader.run_length]
  change (match Varint.read bytes with
    | (.ok length, rest) => readBehind length rest
    | (.error cause, rest) => (.error cause, rest)) = _
  rw [Varint.read_eq]
  rcases Varint.decode bytes with ⟨cause | length, rest⟩ <;> rfl

/-- Bytes **hold a whole frame** when as many of them stand behind its length as that says. -/
def HoldsFrame (bytes : List Byte) : Prop :=
  ∃ length rest, Varint.decode bytes = (.ok length, rest) ∧ length.toInt ≤ rest.length

/-- **Reading from a stream and reading from bytes agree.** Of a varint, as many bytes are taken and
the same is read, but for the error of the end; so it is with the length of a frame, and all else is
read alike. A handshake takes the length of its frame and as many bytes as that says. What follows a
whole frame changes nothing, and is left. -/
theorem reading_agrees (bytes : List Byte) :
    Varint.read bytes =
        ((Varint.decode bytes).1.mapError Varint.onStream, (Varint.decode bytes).2) ∧
      (read bytes).1 =
        (match (Varint.decode bytes).1 with
        | .ok _ => decodeFrame bytes
        | .error _ => (decodeFrame bytes).mapError Varint.onStream) ∧
      (∀ h, (read bytes).1 = .ok h → ∃ length payload : List Byte,
        Varint.SpellsCount length payload.length ∧
          bytes = length ++ payload ++ (read bytes).2) ∧
      (HoldsFrame bytes → ∀ more, decodeFrame (bytes ++ more) = decodeFrame bytes ∧
        read (bytes ++ more) = ((read bytes).1, (read bytes).2 ++ more)) := by
  refine ⟨Varint.read_eq bytes, ?_, ?_, ?_⟩
  · rw [read_eq, decodeFrame_eq]
    rcases Varint.decode bytes with ⟨cause | length, rest⟩ <;> rfl
  · intro h hread
    rw [read_eq] at hread ⊢
    rcases hdecode : Varint.decode bytes with ⟨cause | v, rest⟩
    · simp [hdecode] at hread
    · simp only [hdecode] at hread
      obtain ⟨hnonneg, hle, hleft⟩ := readBehind_of_ok hread
      obtain ⟨length, hlength, rfl⟩ := Varint.decode_eq_ok_iff.mp hdecode
      refine ⟨length, rest.take v.toInt.toNat, ⟨v, hlength, ?_⟩, ?_⟩
      · rw [List.length_take_of_le hle, Int.toNat_of_nonneg hnonneg]
      · simp only [hleft, List.append_assoc, List.take_append_drop]
  · rintro ⟨length, rest, hdecode, hle⟩ more
    have hmore : Varint.decode (bytes ++ more) = (.ok length, rest ++ more) := by
      obtain ⟨spelling, hspells, rfl⟩ := Varint.decode_eq_ok_iff.mp hdecode
      exact Varint.decode_eq_ok_iff.mpr ⟨spelling, hspells, List.append_assoc _ _ _⟩
    rw [decodeFrame_eq, decodeFrame_eq, read_eq, read_eq, hmore, hdecode]
    simp only [readBehind_append hle, and_self]

/-- A frame that spells its length in two bytes, with the first byte of what follows. -/
theorem reading_agrees_in_two_bytes :
    let bytes : List Byte := [0x87, 0x00, 0x00, 0x2F, 0x01, 0x61, 0x63, 0xDD, 0x01, 0xFE]
    HoldsFrame bytes ∧ (read bytes).1 = .ok ⟨47, "a", 25565, 1⟩ ∧
      ∀ more, decodeFrame (bytes ++ more) = decodeFrame bytes ∧
        read (bytes ++ more) = (.ok ⟨47, "a", 25565, 1⟩, 0xFE :: more) := by
  intro bytes
  have hholds : HoldsFrame bytes := ⟨7, bytes.drop 2, by rfl, by decide⟩
  have hread : read bytes = (.ok ⟨47, "a", 25565, 1⟩, [0xFE]) := by rfl
  refine ⟨hholds, by rw [hread], fun more => ?_⟩
  obtain ⟨hframe, hstream⟩ := (reading_agrees bytes).2.2.2 hholds more
  rw [hread] at hstream
  exact ⟨hframe, hstream⟩

end Handshake

/-- **Reading at once and reading on agree**: a handshake is taken off a stream when the bytes
taken begin with its frame, and leaves those behind the frame. -/
theorem FrameReader.feed_start_eq_done_ok_iff {bytes rest : List Byte} {h : Handshake} :
    start.feed bytes = .done (.ok h) rest ↔
      Handshake.decodeFrame bytes = .ok h ∧ Handshake.behindFrame bytes = rest := by
  rw [feed_eq_done_ok_iff, ← Handshake.read, Handshake.read_eq, Handshake.decodeFrame_eq,
    Handshake.behindFrame, Handshake.decodeVarint]
  rcases Varint.decode bytes with ⟨cause | length, behind⟩
  · simp
  · simp only [Prod.ext_iff]
    refine and_congr_right fun hread => ?_
    rw [(Handshake.readBehind_of_ok hread).2.2]

end GameGateway.Wire
