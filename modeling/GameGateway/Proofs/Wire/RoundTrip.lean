import GameGateway.Proofs.Wire.Acceptance

/-!
# Writing and reading handshakes

What is written is one of the payloads and frames that are accepted: each number is in its shortest
spelling, and nothing stands behind the last field. So reading undoes writing, as long as the
payload is one that a frame may have (`encodeFrame_roundTrip`, with the exact bound), and writing
what was read from a frame gives the shortest of its frames (`accepts_frames`).
-/

namespace GameGateway.Wire.Handshake

/-! ### Payloads and frames -/

/-- A number that has been written is read back, and what follows it is left. -/
theorem decodeVarint_encode_append (v : Int32) (rest : List Byte) :
    decodeVarint (Varint.encode v ++ rest) = .ok (v, rest) :=
  decodeVarint_eq_ok_iff.mpr ⟨_, Varint.spells_encode v, rfl⟩

/-- A length that fits 31 bits is spelled by what is written for it. -/
theorem spellsCount_encodeLength {n : Nat} (h : n < 2 ^ 31) :
    Varint.SpellsCount (encodeLength n) n :=
  ⟨_, Varint.spells_encode _, Varint.toInt_ofNat h⟩

/-- The payload that is **written**. -/
def Payload.written (h : Handshake) (hs : (textBytes h.serverAddress).length < 2 ^ 31) :
    h.Payload where
  id := Varint.encode packetId
  version := Varint.encode h.protocolVersion
  addressLength := encodeLength (textBytes h.serverAddress).length
  state := Varint.encode h.nextState
  extra := []
  id_spells := Varint.spells_encode _
  version_spells := Varint.spells_encode _
  addressLength_spells := spellsCount_encodeLength hs
  state_spells := Varint.spells_encode _

/-- What is written for a handshake spells its fields as shortly as can be. -/
theorem Payload.fields_written {h : Handshake}
    (hs : (textBytes h.serverAddress).length < 2 ^ 31) :
    (written h hs).fields = h.encodePayload := by
  simp only [fields, written, encodePayload, List.append_assoc]

/-- Behind these fields, a payload that is written has nothing. -/
theorem Payload.bytes_written {h : Handshake} (hs : (textBytes h.serverAddress).length < 2 ^ 31) :
    (written h hs).bytes = h.encodePayload := by
  rw [bytes, fields_written]
  exact List.append_nil _

/-- **A payload that has been written is read back as the handshake.** -/
theorem decodePayload_encodePayload {h : Handshake}
    (hs : (textBytes h.serverAddress).length < 2 ^ 31) : decodePayload h.encodePayload = .ok h :=
  decodePayload_eq_ok_iff.mpr ⟨Payload.written h hs, (Payload.bytes_written hs).symm⟩

/-- The length of a payload is accepted up to the limit of a frame. -/
theorem checkLength_ofNat {n : Nat} (hpos : 1 ≤ n) (h : n < 2 ^ 31) :
    checkLength (Varint.ofNat n) =
      if n ≤ maxFrame then .ok n else .error (.frameLength (Varint.ofNat n)) := by
  have hn : (1 : Int) ≤ n := by omega
  simp only [checkLength, Varint.toInt_ofNat h, Int.ofNat_le, Int.toNat_natCast, hn, true_and]

/-- No payload is empty. -/
theorem payloadLength_pos (h : Handshake) : 1 ≤ h.payloadLength := by
  unfold payloadLength
  omega

/-- The address is not all of the payload. -/
theorem length_lt_payloadLength (h : Handshake) :
    (textBytes h.serverAddress).length < h.payloadLength := by
  unfold payloadLength
  omega

/-- Besides the address, a payload has at most 18 bytes. -/
theorem payloadLength_le (h : Handshake) :
    h.payloadLength ≤ (textBytes h.serverAddress).length + 18 := by
  have hid : Varint.encodedLength packetId = 1 := rfl
  have hversion : Varint.encodedLength h.protocolVersion ≤ 5 := Varint.encodedLength_le _
  have hstate : Varint.encodedLength h.nextState ≤ 5 := Varint.encodedLength_le _
  have hlength : Varint.encodedLength (Varint.ofNat (textBytes h.serverAddress).length) ≤ 5 :=
    Varint.encodedLength_le _
  unfold payloadLength
  omega

/-- So within the limit of a frame the address is short enough for its length to be written. -/
theorem length_address_lt {h : Handshake} (hle : h.payloadLength ≤ maxFrame) :
    (textBytes h.serverAddress).length < 2 ^ 31 := by
  have := length_lt_payloadLength h
  unfold maxFrame at hle
  omega

/-- The frame that is **written**. -/
def Frame.written (h : Handshake) (hle : h.payloadLength ≤ maxFrame) : h.Frame where
  length := encodeLength h.payloadLength
  payload := Payload.written h (length_address_lt hle)
  length_spells := by
    rw [Payload.bytes_written, length_encodePayload]
    exact spellsCount_encodeLength (Nat.lt_of_le_of_lt hle (by decide))
  length_payload := by
    rw [Payload.bytes_written, length_encodePayload]
    exact ⟨payloadLength_pos h, hle⟩

theorem Frame.bytes_written {h : Handshake} (hle : h.payloadLength ≤ maxFrame) :
    (written h hle).bytes = h.encodeFrame :=
  congrArg (encodeLength h.payloadLength ++ ·) (Payload.bytes_written (length_address_lt hle))

/-- A frame is as long as its payload and the length in front of that. -/
theorem length_encodeFrame (h : Handshake) :
    h.encodeFrame.length =
      Varint.encodedLength (Varint.ofNat h.payloadLength) + h.payloadLength := by
  rw [encodeFrame, encodeLength, List.length_append, Varint.length_encode, length_encodePayload]

/-- What reading makes of the frame of a handshake depends on the length of its payload only. -/
theorem decodeFrame_encodeFrame_append {h : Handshake} (hn : h.payloadLength < 2 ^ 31)
    (rest : List Byte) :
    decodeFrame (h.encodeFrame ++ rest) =
      if h.payloadLength ≤ maxFrame then .ok h
      else .error (.frameLength (Varint.ofNat h.payloadLength)) := by
  have hs : (textBytes h.serverAddress).length < 2 ^ 31 :=
    Nat.lt_trans (length_lt_payloadLength h) hn
  rw [decodeFrame, encodeFrame, encodeLength, List.append_assoc, decodeVarint_encode_append]
  simp only [Except.ok_bind, checkLength_ofNat (payloadLength_pos h) hn]
  by_cases hle : h.payloadLength ≤ maxFrame
  · have hlong : ¬ (h.encodePayload ++ rest).length < h.payloadLength := by
      rw [List.length_append, length_encodePayload]
      omega
    have htake : (h.encodePayload ++ rest).take h.payloadLength = h.encodePayload := by
      rw [← length_encodePayload, List.take_left]
    simp only [hle, hlong, if_true, if_false, Except.ok_bind, htake, decodePayload_encodePayload hs]
  · simp only [hle, if_false, Except.error_bind]

/-- **A frame that has been written is read back**, if its payload is within the limit. -/
theorem decodeFrame_encodeFrame {h : Handshake} (hle : h.payloadLength ≤ maxFrame) :
    decodeFrame h.encodeFrame = .ok h := by
  have hn : h.payloadLength < 2 ^ 31 := Nat.lt_of_le_of_lt hle (by decide)
  rw [← List.append_nil h.encodeFrame, decodeFrame_encodeFrame_append hn, if_pos hle]

/-- A frame of a longer payload is refused for its length, whatever else it holds. -/
theorem decodeFrame_encodeFrame_of_lt {h : Handshake} (hlt : maxFrame < h.payloadLength)
    (hn : h.payloadLength < 2 ^ 31) :
    decodeFrame h.encodeFrame = .error (.frameLength (Varint.ofNat h.payloadLength)) := by
  rw [← List.append_nil h.encodeFrame, decodeFrame_encodeFrame_append hn, if_neg (Nat.not_le.2 hlt)]

/-- **Round trip of frames.** The frame of a handshake is the varint of its payload's length and as
many bytes. If these are at most 255 then the handshake is read back from its frame, whatever
follows, and so different handshakes have different frames; otherwise the frame is refused for its
length. -/
theorem encodeFrame_roundTrip (h : Handshake)
    (hs : (textBytes h.serverAddress).length < 2 ^ 31 - 32) :
    ∃ length : Int32, length.toInt = h.encodePayload.length ∧
      h.encodeFrame = Varint.encode length ++ h.encodePayload ∧
      (h.encodePayload.length ≤ 255 → ∀ rest, decodeFrame (h.encodeFrame ++ rest) = .ok h) ∧
      (255 < h.encodePayload.length →
        ∀ rest, decodeFrame (h.encodeFrame ++ rest) = .error (.frameLength length)) ∧
      ∀ h' : Handshake, h.encodePayload.length ≤ 255 → h'.encodePayload.length ≤ 255 →
        h.encodeFrame = h'.encodeFrame → h = h' := by
  have hn : h.payloadLength < 2 ^ 31 := by
    have := payloadLength_le h
    omega
  simp only [length_encodePayload]
  refine ⟨Varint.ofNat h.payloadLength, Varint.toInt_ofNat hn, rfl, ?_, ?_, ?_⟩
  · intro hle rest
    rw [decodeFrame_encodeFrame_append hn, if_pos (show h.payloadLength ≤ maxFrame from hle)]
  · intro hlt rest
    rw [decodeFrame_encodeFrame_append hn, if_neg (show ¬ h.payloadLength ≤ maxFrame from
      Nat.not_le.2 hlt)]
  · intro h' hle hle' heq
    have hok : decodeFrame h.encodeFrame = .ok h := decodeFrame_encodeFrame hle
    rw [heq, decodeFrame_encodeFrame hle'] at hok
    exact (Except.ok.inj hok).symm

/-- Negative numbers, the highest port, and an address of more bytes than characters. -/
theorem encodeFrame_roundTrip_negative :
    let h : Handshake := ⟨-1, "spiel\x00é\x00", 65535, -2⟩
    (textBytes h.serverAddress).length < 2 ^ 31 - 32 ∧ h.encodePayload.length ≤ 255 ∧
      ∀ rest, decodeFrame (h.encodeFrame ++ rest) = .ok h := by
  intro h
  have hs : (textBytes h.serverAddress).length < 2 ^ 31 - 32 := by decide
  have hle : h.encodePayload.length ≤ 255 := by decide
  obtain ⟨_, -, -, hok, -, -⟩ := encodeFrame_roundTrip h hs
  exact ⟨hs, hle, hok hle⟩

/-- **What is accepted, and its normal form.** Just the frames of a handshake are accepted as it,
whatever stands behind them; the frame that is written is none longer than any of them, and is
accepted as the same handshake. -/
theorem accepts_frames (bytes : List Byte) (h : Handshake) :
    (decodeFrame bytes = .ok h ↔
        ∃ (f : h.Frame) (behind : List Byte), bytes = f.bytes ++ behind) ∧
      ∀ f : h.Frame, h.encodeFrame.length ≤ f.bytes.length ∧
        decodeFrame h.encodeFrame = .ok h := by
  refine ⟨decodeFrame_eq_ok_iff, fun f => ⟨?_, ?_⟩⟩
  · have hpayload := f.payload.payloadLength_le
    have hlength := f.length_spells.encodedLength_le hpayload
    rw [length_encodeFrame, Frame.bytes, List.length_append]
    omega
  · exact decodeFrame_encodeFrame (Nat.le_trans f.payload.payloadLength_le f.length_payload.2)

/-- Lengths and the packet number take more bytes than they need, and a byte stands behind the
fields. -/
example :
    decodeFrame
        [0x8A, 0x80, 0x00, 0x80, 0x00, 0x2F, 0x81, 0x00, 0x61, 0x63, 0xDD, 0x01, 0xFF] =
      .ok ⟨47, "a", 25565, 1⟩ := rfl

end GameGateway.Wire.Handshake
