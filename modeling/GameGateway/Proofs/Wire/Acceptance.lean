import GameGateway.Proofs.Except
import GameGateway.Proofs.Wire.Varint
import GameGateway.Wire.Handshake

/-!
# What is accepted as a handshake

The bytes that are accepted as a handshake have a grammar: a **payload** of it is its fields, one
behind the other and each number in any spelling, and whatever stands behind them; a **frame** of it
is the length of a payload, in any spelling, and the payload. Reading accepts the payloads of a
handshake as it, and its frames in front of anything (`decodePayload_eq_ok_iff`,
`decodeFrame_eq_ok_iff`).

No payload is shorter than the one that is written, so the handshake of a frame fits one
(`payloadLength_le_maxFrame`).
-/

namespace GameGateway.Wire.Handshake

variable {h : Handshake}

/-! ### The grammar -/

/-- A **payload** of a handshake: its fields, in order, and what stands behind them. -/
structure Payload (h : Handshake) where
  id : List Byte
  version : List Byte
  addressLength : List Byte
  state : List Byte
  extra : List Byte
  id_spells : Varint.Spells id packetId
  version_spells : Varint.Spells version h.protocolVersion
  addressLength_spells : Varint.SpellsCount addressLength (textBytes h.serverAddress).length
  state_spells : Varint.Spells state h.nextState

/-- The bytes of the fields of a payload. -/
def Payload.fields (p : h.Payload) : List Byte :=
  p.id ++ (p.version ++ (p.addressLength ++ (textBytes h.serverAddress ++
    (encodePort h.serverPort ++ p.state))))

/-- The bytes of a payload. -/
def Payload.bytes (p : h.Payload) : List Byte :=
  p.fields ++ p.extra

/-- A **frame** of a handshake: a payload behind its length. -/
structure Frame (h : Handshake) where
  length : List Byte
  payload : h.Payload
  length_spells : Varint.SpellsCount length payload.bytes.length
  length_payload : 1 ≤ payload.bytes.length ∧ payload.bytes.length ≤ maxFrame

/-- The bytes of a frame. -/
def Frame.bytes (f : h.Frame) : List Byte :=
  f.length ++ f.payload.bytes

variable {s : String} {v : Int32} {port : UInt16} {bytes rest payload : List Byte}

/-! ### Texts -/

theorem textBytes_of_text? (h : text? bytes = some s) : textBytes s = bytes := by
  rw [text?, String.fromUTF8?] at h
  split at h
  · rw [← Option.some.inj h]
    rfl
  · cases h

@[simp]
theorem text?_textBytes (s : String) : text? (textBytes s) = some s := by
  have hvalid : ByteArray.IsValidUTF8 ⟨(textBytes s).toArray⟩ := s.isValidUTF8
  rw [text?, String.fromUTF8?, dif_pos hvalid]
  rfl

theorem textBytes_injective : Function.Injective textBytes := fun s t h =>
  Option.some.inj ((text?_textBytes s).symm.trans (h ▸ text?_textBytes t))

/-! ### Fields -/

theorem decodeVarint_eq_ok_iff :
    decodeVarint bytes = .ok (v, rest) ↔
      ∃ spelling, Varint.Spells spelling v ∧ bytes = spelling ++ rest := by
  rw [← Varint.decode_eq_ok_iff, decodeVarint]
  rcases Varint.decode bytes with ⟨cause | value, rest'⟩ <;> simp

theorem decodeAddress_eq_ok_iff :
    decodeAddress bytes = .ok (s, rest) ↔
      ∃ length, Varint.SpellsCount length (textBytes s).length ∧
        bytes = length ++ (textBytes s ++ rest) := by
  rw [decodeAddress, Except.bind_eq_ok, Prod.exists]
  constructor
  · rintro ⟨n, behind, hn, hread⟩
    obtain ⟨length, hlength, rfl⟩ := decodeVarint_eq_ok_iff.mp hn
    by_cases hneg : n < 0
    · simp [hneg] at hread
    simp only [hneg, if_false] at hread
    by_cases hshort : behind.length < n.toInt.toNat
    · simp only [hshort, if_true] at hread
      cases hread
    simp only [hshort, if_false] at hread
    cases htext : text? (behind.take n.toInt.toNat) with
    | none =>
      simp only [htext] at hread
      cases hread
    | some address =>
      simp only [htext] at hread
      obtain ⟨rfl, rfl⟩ := Prod.mk.inj (Except.ok.inj hread)
      have hs := textBytes_of_text? htext
      rw [Int32.lt_iff_toInt_lt, Int32.toInt_zero, Int.not_lt] at hneg
      refine ⟨length, ⟨n, hlength, ?_⟩, ?_⟩
      · rw [hs, List.length_take_of_le (Nat.not_lt.mp hshort), Int.toNat_of_nonneg hneg]
      · rw [hs, List.take_append_drop]
  · rintro ⟨length, ⟨n, hlength, hn⟩, rfl⟩
    refine ⟨n, textBytes s ++ rest, decodeVarint_eq_ok_iff.mpr ⟨length, hlength, rfl⟩, ?_⟩
    have hnonneg : ¬ n < 0 := by
      rw [Int32.lt_iff_toInt_lt, Int32.toInt_zero]
      omega
    simp [hnonneg, hn]

theorem decodePort_eq_ok_iff :
    decodePort bytes = .ok (port, rest) ↔ bytes = encodePort port ++ rest := by
  constructor
  · intro hread
    match bytes, hread with
    | hi :: lo :: behind, hread =>
      obtain ⟨rfl, rfl⟩ := Prod.mk.inj (Except.ok.inj hread)
      have hhi := hi.toNat_lt
      have hlo := lo.toNat_lt
      have hport : (UInt16.ofNat (hi.toNat * 256 + lo.toNat)).toNat =
          hi.toNat * 256 + lo.toNat := UInt16.toNat_ofNat_of_lt' (by
            rw [UInt16.size]
            omega)
      have hquot : (hi.toNat * 256 + lo.toNat) / 256 = hi.toNat := by omega
      have hrem : (hi.toNat * 256 + lo.toNat) % 256 = lo.toNat := by omega
      rw [encodePort, hport, hquot, hrem, UInt8.ofNat_toNat, UInt8.ofNat_toNat]
      rfl
    | [], hread => cases hread
    | [_], hread => cases hread
  · rintro rfl
    have hport := port.toNat_lt
    have hvalue : port.toNat / 256 % 2 ^ 8 * 256 + port.toNat % 256 % 2 ^ 8 = port.toNat := by
      omega
    simp only [encodePort, decodePort, List.cons_append, List.nil_append, UInt8.toNat_ofNat',
      hvalue, UInt16.ofNat_toNat]

/-! ### Payloads -/

/-- **What is accepted as a payload**: the payloads of a handshake are, as the handshake. -/
theorem decodePayload_eq_ok_iff :
    decodePayload payload = .ok h ↔ ∃ p : h.Payload, payload = p.bytes := by
  rw [decodePayload]
  constructor
  · intro hread
    obtain ⟨⟨number, r₁⟩, hid, hread⟩ := Except.bind_eq_ok.1 hread
    by_cases hnumber : number = packetId
    · subst hnumber
      simp only [ne_eq, not_true_eq_false, if_false] at hread
      obtain ⟨⟨version, r₂⟩, hversion, hread⟩ := Except.bind_eq_ok.1 hread
      obtain ⟨⟨address, r₃⟩, haddress, hread⟩ := Except.bind_eq_ok.1 hread
      obtain ⟨⟨port, r₄⟩, hport, hread⟩ := Except.bind_eq_ok.1 hread
      obtain ⟨⟨state, r₅⟩, hstate, hread⟩ := Except.bind_eq_ok.1 hread
      obtain rfl := Except.ok.inj hread
      obtain ⟨id, id_spells, rfl⟩ := decodeVarint_eq_ok_iff.mp hid
      obtain ⟨version, version_spells, rfl⟩ := decodeVarint_eq_ok_iff.mp hversion
      obtain ⟨length, length_spells, rfl⟩ := decodeAddress_eq_ok_iff.mp haddress
      obtain rfl := decodePort_eq_ok_iff.mp hport
      obtain ⟨state, state_spells, rfl⟩ := decodeVarint_eq_ok_iff.mp hstate
      refine ⟨⟨id, version, length, state, r₅, id_spells, version_spells, length_spells,
        state_spells⟩, ?_⟩
      simp only [Payload.bytes, Payload.fields, List.append_assoc]
    · simp [hnumber] at hread
  · rintro ⟨p, rfl⟩
    have hid (rest : List Byte) : decodeVarint (p.id ++ rest) = .ok (packetId, rest) :=
      decodeVarint_eq_ok_iff.mpr ⟨_, p.id_spells, rfl⟩
    have hversion (rest : List Byte) :
        decodeVarint (p.version ++ rest) = .ok (h.protocolVersion, rest) :=
      decodeVarint_eq_ok_iff.mpr ⟨_, p.version_spells, rfl⟩
    have haddress (rest : List Byte) :
        decodeAddress (p.addressLength ++ (textBytes h.serverAddress ++ rest)) =
          .ok (h.serverAddress, rest) :=
      decodeAddress_eq_ok_iff.mpr ⟨_, p.addressLength_spells, rfl⟩
    have hport (rest : List Byte) :
        decodePort (encodePort h.serverPort ++ rest) = .ok (h.serverPort, rest) :=
      decodePort_eq_ok_iff.mpr rfl
    have hstate (rest : List Byte) : decodeVarint (p.state ++ rest) = .ok (h.nextState, rest) :=
      decodeVarint_eq_ok_iff.mpr ⟨_, p.state_spells, rfl⟩
    simp [Payload.bytes, Payload.fields, hid, hversion, haddress, hport, hstate]

/-- **No payload is shorter** than the one that is written. -/
theorem Payload.payloadLength_le (p : h.Payload) : h.payloadLength ≤ p.bytes.length := by
  have := p.id_spells.encodedLength_le
  have := p.version_spells.encodedLength_le
  have := p.addressLength_spells.encodedLength_le (Nat.le_refl _)
  have := p.state_spells.encodedLength_le
  have : (encodePort h.serverPort).length = 2 := rfl
  simp only [payloadLength, Payload.bytes, Payload.fields, List.length_append]
  omega

/-! ### Frames -/

theorem checkLength_eq_ok_iff {n : Nat} :
    checkLength v = .ok n ↔ v.toInt = n ∧ 1 ≤ n ∧ n ≤ maxFrame := by
  unfold checkLength
  split
  · simp only [Except.ok.injEq]
    omega
  · simp only [reduceCtorEq, false_iff]
    omega

/-- **What is accepted as a frame**: what begins with a frame of a handshake is, as the
handshake. -/
theorem decodeFrame_eq_ok_iff :
    decodeFrame bytes = .ok h ↔
      ∃ (f : h.Frame) (behind : List Byte), bytes = f.bytes ++ behind := by
  rw [decodeFrame, Except.bind_eq_ok, Prod.exists]
  constructor
  · rintro ⟨v, behind, hv, hread⟩
    obtain ⟨length, hlength, rfl⟩ := decodeVarint_eq_ok_iff.mp hv
    obtain ⟨n, hn, hread⟩ := Except.bind_eq_ok.1 hread
    obtain ⟨hcount, hbounds⟩ := checkLength_eq_ok_iff.mp hn
    by_cases hshort : behind.length < n
    · simp [hshort] at hread
    · simp only [hshort, if_false] at hread
      obtain ⟨p, hp⟩ := decodePayload_eq_ok_iff.mp hread
      have hlength' : p.bytes.length = n := by
        rw [← hp, List.length_take_of_le (Nat.not_lt.mp hshort)]
      have hbehind : behind = p.bytes ++ behind.drop n := by
        rw [← hp, List.take_append_drop]
      subst hlength'
      refine ⟨⟨length, p, ⟨v, hlength, hcount⟩, hbounds⟩, behind.drop p.bytes.length, ?_⟩
      rw [Frame.bytes, List.append_assoc, ← hbehind]
  · rintro ⟨f, behind, rfl⟩
    obtain ⟨v, hlength, hcount⟩ := f.length_spells
    refine ⟨v, f.payload.bytes ++ behind, decodeVarint_eq_ok_iff.mpr ⟨_, hlength, ?_⟩, ?_⟩
    · rw [Frame.bytes, List.append_assoc]
    · have hpayload : decodePayload f.payload.bytes = .ok h :=
        decodePayload_eq_ok_iff.mpr ⟨_, rfl⟩
      simp [checkLength_eq_ok_iff.mpr ⟨hcount, f.length_payload⟩, hpayload]

/-- **What comes in a frame fits a frame**, also when it is written anew. -/
theorem payloadLength_le_maxFrame (hb : decodeFrame bytes = .ok h) :
    h.payloadLength ≤ maxFrame := by
  obtain ⟨f, -, -⟩ := decodeFrame_eq_ok_iff.mp hb
  exact Nat.le_trans f.payload.payloadLength_le f.length_payload.2

end GameGateway.Wire.Handshake
