import GameGateway.Proofs.Wire.RoundTrip
import Mathlib.Data.List.Infix

/-!
# Handshakes that are cut short

A reading is **truncated** when it is refused because the bytes ended. A decoder takes bytes when it
reads a value from them and leaves what follows, and is truncated on their strict prefixes. Varints,
addresses and ports are taken so, and what reads several fields is truncated in the one that the
bytes end in (`Takes.truncated_bind`): no field is mistaken for a later one, and none is read from
less than all of its bytes.

So a handshake that is cut short is refused as truncated wherever it is cut, and no frame and no
payload is where another one begins (`truncated_of_strictPrefix`).
-/

namespace GameGateway.Wire

/-- A **strict prefix** of bytes: what they begin with, and not all of them. -/
def StrictPrefix (front bytes : List Byte) : Prop :=
  front <+: bytes ∧ front ≠ bytes

/-- A reading is **truncated** when the bytes end within a field. -/
def Truncated {α : Type} (result : Except Refusal α) : Prop :=
  ∃ field, result = .error (.truncated field)

variable {α β : Type} {front bytes more : List Byte}

theorem StrictPrefix.length_lt (h : StrictPrefix front bytes) : front.length < bytes.length :=
  Nat.lt_of_le_of_ne h.1.length_le fun hlength => h.2 (h.1.eq_of_length hlength)

/-- Where two pieces are cut short, one of them is. -/
theorem StrictPrefix.of_append (h : StrictPrefix front (bytes ++ more)) :
    StrictPrefix front bytes ∨ ∃ front', front = bytes ++ front' ∧ StrictPrefix front' more := by
  rcases List.prefix_or_prefix_of_prefix h.1 (List.prefix_append bytes more) with hfront | hbytes
  · by_cases heq : front = bytes
    · refine .inr ⟨[], by rw [heq, List.append_nil], List.nil_prefix, ?_⟩
      rintro rfl
      exact h.2 (by rw [heq, List.append_nil])
    · exact .inl ⟨hfront, heq⟩
  · obtain ⟨front', rfl⟩ := hbytes
    refine .inr ⟨front', rfl, (List.prefix_append_right_inj bytes).mp h.1, ?_⟩
    rintro rfl
    exact h.2 rfl

/-- What is truncated stays so, whatever was to be read next. -/
theorem Truncated.bind {x : Except Refusal α} (h : Truncated x) (f : α → Except Refusal β) :
    Truncated (x >>= f) := by
  obtain ⟨field, rfl⟩ := h
  exact ⟨field, rfl⟩

/-! ### Varints -/

/-- All bytes of a varint that is cut short continue. -/
theorem Varint.Groups.continues_of_strictPrefix {n : Nat} (h : Groups bytes n)
    (hfront : StrictPrefix front bytes) : ∀ b ∈ front, continues b = true := by
  induction h generalizing front with
  | @last b _ =>
    have hempty : front = [] := List.length_eq_zero_iff.mp (Nat.lt_one_iff.mp hfront.length_lt)
    simp [hempty]
  | @more b bytes n hb _ ih =>
    rcases List.prefix_cons_iff.mp hfront.1 with rfl | ⟨front', rfl, hstart⟩
    · simp
    · have hstrict : StrictPrefix front' bytes := ⟨hstart, fun heq => hfront.2 (by rw [heq])⟩
      exact List.forall_mem_cons.mpr ⟨hb, ih hstrict⟩

namespace Handshake

/-- A decoder **takes** bytes as a value: it reads the value, and leaves what follows; of less than
all of the bytes it makes nothing. -/
structure Takes (d : Decoder α) (bytes : List Byte) (a : α) : Prop where
  whole : ∀ rest, d (bytes ++ rest) = .ok (a, rest)
  cut : ∀ {front}, StrictPrefix front bytes → Truncated (d front)

/-- Bytes that are cut short are cut in the first field, or it is read and the rest is cut. -/
theorem Takes.truncated_bind {d : Decoder α} {a : α} (hd : Takes d bytes a)
    {f : α × List Byte → Except Refusal β}
    (hf : ∀ {front}, StrictPrefix front more → Truncated (f (a, front)))
    (hfront : StrictPrefix front (bytes ++ more)) : Truncated (d front >>= f) := by
  rcases hfront.of_append with hcut | ⟨front', rfl, hcut⟩
  · exact (hd.cut hcut).bind f
  · rw [hd.whole, Except.ok_bind]
    exact hf hcut

variable {h : Handshake} {v : Int32}

/-! ### Fields -/

/-- A number is taken from any of its spellings. -/
theorem takes_varint (hv : Varint.Spells bytes v) : Takes decodeVarint bytes v where
  whole _ := decodeVarint_eq_ok_iff.mpr ⟨bytes, hv, rfl⟩
  cut hfront := by
    obtain ⟨hlength, n, hn, -⟩ := Varint.spells_iff.mp hv
    have hgroups := Varint.decodeGroups_of_continues
      (Nat.lt_of_lt_of_le hfront.length_lt hlength) (hn.continues_of_strictPrefix hfront)
    exact ⟨.varint, by rw [decodeVarint, Varint.decode, hgroups]; rfl⟩

/-- An address is taken with its length in front. -/
theorem takes_address {s : String} (hlength : Varint.SpellsCount bytes (textBytes s).length) :
    Takes decodeAddress (bytes ++ textBytes s) s where
  whole rest := decodeAddress_eq_ok_iff.mpr ⟨bytes, hlength, List.append_assoc _ _ _⟩
  cut hfront := by
    obtain ⟨n, hn, hcount⟩ := hlength
    refine (takes_varint hn).truncated_bind (fun {front} hcut => ?_) hfront
    have hnonneg : ¬ n < 0 := by
      rw [Int32.lt_iff_toInt_lt, Int32.toInt_zero]
      omega
    have hshort : front.length < n.toInt.toNat := by
      rw [hcount]
      exact hcut.length_lt
    exact ⟨.serverAddress, by simp only [hnonneg, hshort, if_false, if_true]; rfl⟩

theorem takes_port (port : UInt16) : Takes decodePort (encodePort port) port where
  whole _ := decodePort_eq_ok_iff.mpr rfl
  cut {front} hfront := by
    have hlength : front.length < 2 := hfront.length_lt
    match front, hlength with
    | [], _ => exact ⟨.serverPort, rfl⟩
    | [_], _ => exact ⟨.serverPort, rfl⟩

/-! ### Payloads and frames -/

/-- Fields that are cut short are refused as truncated, in whichever they are cut. -/
theorem Payload.truncated (p : h.Payload) (hfront : StrictPrefix front p.fields) :
    Truncated (decodePayload front) := by
  rw [decodePayload]
  refine (takes_varint p.id_spells).truncated_bind (fun hid => ?_) hfront
  simp only [ne_eq, not_true_eq_false, if_false]
  refine (takes_varint p.version_spells).truncated_bind (fun haddress => ?_) hid
  -- the length of the address and its bytes are one field
  rw [← List.append_assoc] at haddress
  refine (takes_address p.addressLength_spells).truncated_bind (fun hport => ?_) haddress
  refine (takes_port h.serverPort).truncated_bind (fun hstate => ?_) hport
  exact ((takes_varint p.state_spells).cut hstate).bind _

/-- **Less than a frame is a truncated frame**, however it is spelled. -/
theorem Frame.truncated (f : h.Frame) (hfront : StrictPrefix front f.bytes) :
    Truncated (decodeFrame front) := by
  obtain ⟨v, hv, hcount⟩ := f.length_spells
  rw [decodeFrame]
  refine (takes_varint hv).truncated_bind (fun hpayload => ?_) hfront
  have hlength := checkLength_eq_ok_iff.mpr ⟨hcount, f.length_payload⟩
  exact ⟨.frame, by simp [hlength, hpayload.length_lt]⟩

/-- No frame that has been written is truncated, even one that is too long to be accepted. -/
theorem not_truncated_decodeFrame_encodeFrame (hn : h.payloadLength < 2 ^ 31) :
    ¬ Truncated (decodeFrame h.encodeFrame) := by
  rintro ⟨field, hfield⟩
  by_cases hle : h.payloadLength ≤ maxFrame
  · rw [decodeFrame_encodeFrame hle] at hfield
    cases hfield
  · rw [decodeFrame_encodeFrame_of_lt (Nat.not_le.mp hle) hn] at hfield
    cases hfield

/-- **A handshake that is cut short is refused as truncated**, wherever its frame or its payload is
cut, and so none of them is a strict prefix of another. -/
theorem truncated_of_strictPrefix (h : Handshake) (hle : h.encodePayload.length ≤ 255) :
    (∀ front, StrictPrefix front h.encodeFrame → Truncated (decodeFrame front)) ∧
      (∀ front, StrictPrefix front h.encodePayload → Truncated (decodePayload front)) ∧
      ∀ h' : Handshake, ¬ StrictPrefix h'.encodeFrame h.encodeFrame ∧
        ¬ StrictPrefix h'.encodePayload h.encodePayload := by
  rw [length_encodePayload] at hle
  have hframe : ∀ front, StrictPrefix front h.encodeFrame → Truncated (decodeFrame front) := by
    intro front hfront
    rw [← Frame.bytes_written hle] at hfront
    exact (Frame.written h hle).truncated hfront
  have hpayload : ∀ front, StrictPrefix front h.encodePayload →
      Truncated (decodePayload front) := by
    intro front hfront
    rw [← Payload.fields_written (length_address_lt hle)] at hfront
    exact (Payload.written h _).truncated hfront
  refine ⟨hframe, hpayload, fun h' => ⟨fun hfront => ?_, fun hfront => ?_⟩⟩
  · have hlength := hfront.length_lt
    have hwidth : Varint.encodedLength (Varint.ofNat h.payloadLength) ≤ 5 :=
      Varint.encodedLength_le _
    rw [length_encodeFrame, length_encodeFrame] at hlength
    exact not_truncated_decodeFrame_encodeFrame (by omega) (hframe _ hfront)
  · have hlength := hfront.length_lt
    rw [length_encodePayload, length_encodePayload] at hlength
    obtain ⟨field, hfield⟩ := hpayload _ hfront
    rw [decodePayload_encodePayload (length_address_lt (by unfold maxFrame; omega))] at hfield
    cases hfield

/-- A cut within the two bytes of a letter. -/
theorem truncated_of_strictPrefix_in_letter :
    let h : Handshake := ⟨-1, "spiel.é", 65535, -2⟩
    h.encodePayload.length ≤ 255 ∧ StrictPrefix (h.encodePayload.take 14) h.encodePayload ∧
      text? ((textBytes h.serverAddress).take 7) = none ∧
      Truncated (decodePayload (h.encodePayload.take 14)) := by
  intro h
  have hle : h.encodePayload.length ≤ 255 := by decide
  have hcut : StrictPrefix (h.encodePayload.take 14) h.encodePayload :=
    ⟨List.take_prefix _ _, by decide⟩
  exact ⟨hle, hcut, by decide, (truncated_of_strictPrefix h hle).2.1 _ hcut⟩

end Handshake

end GameGateway.Wire
