import GameGateway.Wire.Varint

/-!
# The handshake

The **handshake** is the first packet of a game connection. It names the host that the player
asked for, and so decides where the connection goes. On the wire it is a frame: the varint of
the payload's length and the payload, which is, in order, the packet number 0, the protocol
version, the address (its length and its UTF-8 bytes), the port in two bytes, high byte first,
and the state asked for; numbers are varints.

`encodeFrame` and `encodePayload` write it, `decodeFrame` and `decodePayload` read it back from
bytes that are all at hand. An address may carry data of modified clients behind a NUL
character: `hostname` is the part in front of it and `marker` the part behind it.
-/

namespace GameGateway.Wire

/-- The first packet of a game connection. -/
structure Handshake where
  protocolVersion : Int32
  /-- The host that the player asked for, possibly followed by NUL and a marker. -/
  serverAddress : String
  serverPort : UInt16
  /-- 1 asks for the status, 2 for a login. -/
  nextState : Int32
  deriving DecidableEq, Repr

namespace Handshake

/-- The number of the handshake among packets. -/
def packetId : Int32 := 0

/-- The longest payload a handshake may have. -/
def maxFrame : Nat := 255

/-! ### Writing -/

/-- A port in two bytes, high byte first. -/
def encodePort (port : UInt16) : List Byte :=
  [UInt8.ofNat (port.toNat / 256), UInt8.ofNat (port.toNat % 256)]

/-- The UTF-8 bytes of a text. -/
def textBytes (s : String) : List Byte :=
  s.toByteArray.data.toList

/-- The varint of a count of bytes. -/
def encodeLength (n : Nat) : List Byte :=
  Varint.encode (Varint.ofNat n)

/-- The payload of a handshake. -/
def encodePayload (h : Handshake) : List Byte :=
  Varint.encode packetId ++ Varint.encode h.protocolVersion ++
    encodeLength (textBytes h.serverAddress).length ++ textBytes h.serverAddress ++
    encodePort h.serverPort ++ Varint.encode h.nextState

/-- The number of bytes of the payload, summed up field by field. -/
def payloadLength (h : Handshake) : Nat :=
  Varint.encodedLength packetId + Varint.encodedLength h.protocolVersion +
    Varint.encodedLength (Varint.ofNat (textBytes h.serverAddress).length) +
    (textBytes h.serverAddress).length + 2 + Varint.encodedLength h.nextState

/-- The frame of a handshake: its payload behind the payload's length. -/
def encodeFrame (h : Handshake) : List Byte :=
  encodeLength h.payloadLength ++ h.encodePayload

/-- The length that is written in front of a payload is the payload's. -/
theorem length_encodePayload (h : Handshake) : h.encodePayload.length = h.payloadLength := by
  simp only [encodePayload, payloadLength, encodeLength, encodePort, List.length_append,
    Varint.length_encode, List.length_cons, List.length_nil]

/-! ### Reading -/

/-- A step that reads something off the front of the bytes. -/
abbrev Decoder (α : Type) := List Byte → Except Refusal (α × List Byte)

/-- Reads a varint. -/
def decodeVarint : Decoder Int32 := fun bytes =>
  match Varint.decode bytes with
  | (.ok value, rest) => .ok (value, rest)
  | (.error cause, _) => .error cause

/-- The text with these UTF-8 bytes, if there is one. -/
def text? (bytes : List Byte) : Option String :=
  String.fromUTF8? ⟨bytes.toArray⟩

/-- Reads an address: its length and its bytes. -/
def decodeAddress : Decoder String := fun bytes => do
  let (length, rest) ← decodeVarint bytes
  if length < 0 then
    throw (.stringLength length)
  let n := length.toInt.toNat
  if rest.length < n then
    throw (.truncated .serverAddress)
  match text? (rest.take n) with
  | some address => return (address, rest.drop n)
  | none => throw .invalidUtf8

/-- Reads a port. -/
def decodePort : Decoder UInt16
  | hi :: lo :: rest => .ok (UInt16.ofNat (hi.toNat * 256 + lo.toNat), rest)
  | _ => .error (.truncated .serverPort)

/-- Reads a payload; bytes behind the last field are ignored. -/
def decodePayload (payload : List Byte) : Except Refusal Handshake := do
  let (id, rest) ← decodeVarint payload
  if id ≠ packetId then
    throw (.unexpectedPacketId id)
  let (protocolVersion, rest) ← decodeVarint rest
  let (serverAddress, rest) ← decodeAddress rest
  let (serverPort, rest) ← decodePort rest
  -- What stands behind the state is no part of the handshake.
  let (nextState, _) ← decodeVarint rest
  return { protocolVersion, serverAddress, serverPort, nextState }

/-- The payload length that a frame announces, which must be one that a handshake can have. -/
def checkLength (length : Int32) : Except Refusal Nat :=
  if 1 ≤ length.toInt ∧ length.toInt ≤ maxFrame then .ok length.toInt.toNat
  else .error (.frameLength length)

/-- Reads a frame; bytes behind it are ignored. -/
def decodeFrame (bytes : List Byte) : Except Refusal Handshake := do
  let (length, rest) ← decodeVarint bytes
  let n ← checkLength length
  if rest.length < n then
    throw (.truncated .frame)
  decodePayload (rest.take n)

/-! ### The parts of the address -/

/-- The part of the address in front of the first NUL: the host asked for. -/
def hostname (h : Handshake) : String :=
  String.ofList (h.serverAddress.toList.takeWhile (· ≠ '\x00'))

/-- The part of the address behind the first NUL, if there is one. -/
def marker (h : Handshake) : Option String :=
  match h.serverAddress.toList.dropWhile (· ≠ '\x00') with
  | [] => none
  | _ :: rest => some (String.ofList rest)

/-- The handshake that is sent on to a backend: it asks the backend itself, at the backend's
port, and keeps the marker, by which modified servers recognise their clients. -/
def forBackend (h : Handshake) (port : UInt16) : Handshake :=
  { h with
    serverPort := port
    serverAddress :=
      match h.marker with
      | some marker => "localhost\x00" ++ marker
      | none => "localhost" }

end Handshake

end GameGateway.Wire
