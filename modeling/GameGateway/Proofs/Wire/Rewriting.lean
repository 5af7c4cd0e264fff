import GameGateway.Proofs.Wire.Acceptance
import GameGateway.Proofs.Wire.RoundTrip

/-!
# The handshake for a backend

In the bytes of an address no byte is zero but the NUL characters, so the host is what stands in
front of the first zero byte. The handshake that goes on to a backend has `localhost` there, and
the same bytes behind it (`textBytes_forBackend`).
-/

namespace GameGateway.Wire.Handshake

variable {h : Handshake} {bytes : List Byte}

/-! ### The bytes of an address -/

theorem textBytes_ofList (l : List Char) :
    textBytes (String.ofList l) = l.flatMap String.utf8EncodeChar := by
  rw [textBytes, String.toByteArray_ofList, List.utf8Encode, List.toList_data_toByteArray]

theorem textBytes_append (s t : String) : textBytes (s ++ t) = textBytes s ++ textBytes t := by
  simp [textBytes, String.toByteArray_append]

theorem zero_eq_ofNat_iff {n : Nat} : (0 : Byte) = UInt8.ofNat n ↔ n % 256 = 0 := by
  rw [← UInt8.toNat_inj, UInt8.toNat_ofNat', eq_comm]
  rfl

/-- Only the character NUL is written with a zero byte. -/
theorem zero_notMem_utf8EncodeChar {c : Char} (hc : c ≠ '\x00') :
    (0 : Byte) ∉ String.utf8EncodeChar c := by
  have hpos : c.val.toNat ≠ 0 := fun h => hc (Char.toNat_inj.1 h)
  fun_cases String.utf8EncodeChar
  all_goals
    simp only [List.mem_cons, List.not_mem_nil, or_false, zero_eq_ofNat_iff]
    omega

theorem utf8EncodeChar_zero : String.utf8EncodeChar '\x00' = [0] := rfl

/-- Splitting an address at its first NUL splits its bytes at the first zero. -/
theorem takeWhile_textBytes (s : String) :
    (textBytes s).takeWhile (· ≠ 0) =
      textBytes (String.ofList (s.toList.takeWhile (· ≠ '\x00'))) ∧
    (textBytes s).dropWhile (· ≠ 0) =
      textBytes (String.ofList (s.toList.dropWhile (· ≠ '\x00'))) := by
  rw [← String.ofList_toList (s := s)]
  simp only [String.toList_ofList, textBytes_ofList]
  induction s.toList with
  | nil => exact ⟨rfl, rfl⟩
  | cons c rest ih =>
    by_cases hc : c = '\x00'
    · subst hc
      simp [utf8EncodeChar_zero]
    · have hall : ∀ b ∈ String.utf8EncodeChar c, decide (b ≠ 0) = true := by
        intro b hb
        exact decide_eq_true fun h0 => zero_notMem_utf8EncodeChar hc (h0 ▸ hb)
      rw [List.flatMap_cons, List.takeWhile_append_of_pos hall, List.dropWhile_append_of_pos hall,
        List.takeWhile_cons_of_pos (by simpa using hc),
        List.dropWhile_cons_of_pos (by simpa using hc), List.flatMap_cons, ih.1, ih.2]
      exact ⟨rfl, rfl⟩

theorem textBytes_hostname (h : Handshake) :
    textBytes h.hostname = (textBytes h.serverAddress).takeWhile (· ≠ 0) :=
  (takeWhile_textBytes h.serverAddress).1.symm

/-- The address for a backend is `localhost` and all that stands behind the host. -/
theorem textBytes_forBackend (h : Handshake) (port : UInt16) :
    textBytes (h.forBackend port).serverAddress =
      textBytes "localhost" ++ (textBytes h.serverAddress).dropWhile (· ≠ 0) := by
  rw [(takeWhile_textBytes h.serverAddress).2]
  simp only [forBackend, marker]
  cases hrest : h.serverAddress.toList.dropWhile (· ≠ '\x00') with
  | nil => simp [textBytes]
  | cons c rest =>
    have hc : c = '\x00' := by
      have hhead := List.head?_dropWhile_not (· ≠ '\x00') h.serverAddress.toList
      rw [hrest] at hhead
      simpa using hhead
    subst hc
    simp only [← textBytes_append]
    refine congrArg textBytes (String.toList_injective ?_)
    simp

/-! ### Its length -/

/-- The length of an address that fits a frame takes one byte below 128 and two from there on. -/
theorem encodedLength_ofNat {n : Nat} (h : n < 2 ^ 14) :
    n < 128 ∧ Varint.encodedLength (Varint.ofNat n) = 1 ∨
      128 ≤ n ∧ Varint.encodedLength (Varint.ofNat n) = 2 := by
  have hn : (Varint.ofNat n).toUInt32.toNat = n := by
    rw [Varint.toNat_toUInt32_ofNat]
    omega
  simp only [Varint.encodedLength, hn, Nat.reduceShiftLeft]
  by_cases hsmall : n < 128
  · exact .inl ⟨hsmall, if_pos hsmall⟩
  · exact .inr ⟨by omega, by rw [if_neg hsmall, if_pos (by omega)]⟩

theorem length_hostname_le (h : Handshake) :
    (textBytes h.hostname).length ≤ (textBytes h.serverAddress).length := by
  rw [textBytes_hostname]
  exact (List.takeWhile_prefix _).length_le

theorem length_forBackend (h : Handshake) (port : UInt16) :
    (textBytes (h.forBackend port).serverAddress).length + (textBytes h.hostname).length =
      (textBytes h.serverAddress).length + 9 := by
  have hlocal : (textBytes "localhost").length = 9 := rfl
  have hsplit := congrArg List.length
    (List.takeWhile_append_dropWhile (p := (· ≠ 0)) (l := textBytes h.serverAddress))
  rw [List.length_append] at hsplit
  rw [textBytes_forBackend, textBytes_hostname, List.length_append, hlocal]
  omega

/-- The payload for a backend has nine bytes in place of the host's, unless it fits a frame both
with as many bytes and with these. -/
theorem payloadLength_forBackend (hle : h.payloadLength ≤ maxFrame) (port : UInt16) :
    (h.forBackend port).payloadLength + (textBytes h.hostname).length = h.payloadLength + 9 ∨
      (h.forBackend port).payloadLength ≤ maxFrame ∧
        h.payloadLength + 9 ≤ maxFrame + (textBytes h.hostname).length := by
  have hversion : Varint.encodedLength h.protocolVersion ≤ 5 := Varint.encodedLength_le _
  have hstate : Varint.encodedLength h.nextState ≤ 5 := Varint.encodedLength_le _
  have hhost := length_hostname_le h
  have hnew := length_forBackend h port
  have hlt := length_lt_payloadLength h
  unfold maxFrame at *
  have hwidth := encodedLength_ofNat (n := (textBytes h.serverAddress).length) (by omega)
  have hwidth' :=
    encodedLength_ofNat (n := (textBytes (h.forBackend port).serverAddress).length) (by omega)
  have hid : Varint.encodedLength packetId = 1 := rfl
  have hversion' : (h.forBackend port).protocolVersion = h.protocolVersion := rfl
  have hstate' : (h.forBackend port).nextState = h.nextState := rfl
  -- both payloads are far below the bound where the lengths of their addresses differ in width
  unfold payloadLength at *
  rw [hversion', hstate']
  omega

/-- **Which handshakes can be forwarded**: of those that are accepted, just those whose payload
still fits a frame when `localhost` takes the place of the host are accepted as they go on to a
backend; the others are refused there for their length. -/
theorem decodeFrame_forBackend_eq_ok_iff (hb : decodeFrame bytes = .ok h) (port : UInt16) :
    (decodeFrame (h.forBackend port).encodeFrame = .ok (h.forBackend port) ↔
      h.payloadLength + 9 ≤ 255 + (textBytes h.hostname).length) ∧
    (255 + (textBytes h.hostname).length < h.payloadLength + 9 →
      ∃ length : Int32, length.toInt + (textBytes h.hostname).length = h.payloadLength + 9 ∧
        decodeFrame (h.forBackend port).encodeFrame = .error (.frameLength length)) := by
  have hle := payloadLength_le_maxFrame hb
  have hnew := payloadLength_forBackend hle port
  unfold maxFrame at hle hnew
  have hn : (h.forBackend port).payloadLength < 2 ^ 31 := by omega
  by_cases hfits : (h.forBackend port).payloadLength ≤ 255
  · exact ⟨iff_of_true (decodeFrame_encodeFrame hfits) (by omega), fun _ => by omega⟩
  · have hrefused := decodeFrame_encodeFrame_of_lt (Nat.not_le.1 hfits) hn
    refine ⟨iff_of_false (by simp [hrefused]) (by omega), fun _ => ⟨_, ?_, hrefused⟩⟩
    rw [Varint.toInt_ofNat hn]
    omega

/-- A modified client is told apart behind a host that is as long as `localhost`. -/
theorem decodeFrame_forBackend_marked :
    let h : Handshake := ⟨-7, "mc.example\x00FML3\x00", 25565, 2⟩
    decodeFrame h.encodeFrame = .ok h ∧
      h.payloadLength + 9 ≤ 255 + (textBytes h.hostname).length ∧
      decodeFrame (h.forBackend 25570).encodeFrame = .ok (h.forBackend 25570) := by
  intro h
  have hb : decodeFrame h.encodeFrame = .ok h := decodeFrame_encodeFrame (by decide)
  have hfits : h.payloadLength + 9 ≤ 255 + (textBytes h.hostname).length := by decide
  exact ⟨hb, hfits, (decodeFrame_forBackend_eq_ok_iff hb 25570).1.2 hfits⟩

/-- An address without a host, and with a marker of 240 bytes, is accepted; with `localhost` in
front of the marker it is three bytes too long. -/
theorem forBackend_outgrows_frame :
    let h : Handshake := ⟨763, String.ofList ('\x00' :: List.replicate 240 'm'), 25565, 2⟩
    decodeFrame h.encodeFrame = .ok h ∧
      decodeFrame (h.forBackend 25565).encodeFrame = .error (.frameLength 258) := by
  intro h
  have hs : (textBytes h.serverAddress).length = 241 := by
    rw [textBytes_ofList]
    decide +kernel
  have hn : h.payloadLength = 249 := by
    unfold payloadLength
    rw [hs]
    decide
  have hhost : (textBytes h.hostname).length = 0 := by
    rw [textBytes_hostname, textBytes_ofList]
    decide +kernel
  have hn' : (h.forBackend 25565).payloadLength = 258 := by
    have := payloadLength_forBackend (h := h) (by rw [hn]; decide) 25565
    unfold maxFrame at this
    omega
  refine ⟨decodeFrame_encodeFrame (by rw [hn]; decide), ?_⟩
  rw [decodeFrame_encodeFrame_of_lt (by rw [hn']; decide) (by rw [hn']; decide), hn']
  rfl

end GameGateway.Wire.Handshake
