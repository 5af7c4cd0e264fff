/-!
# Why a handshake cannot be read

The causes for which bytes are refused as a varint or as a handshake. Each of them ends the
connection it arose on.
-/

namespace GameGateway.Wire

/-- A byte: the unit of everything sent over a connection. -/
abbrev Byte := UInt8

/-- The part of a handshake that was being read when the bytes ran out. -/
inductive Field where
  | varint
  | serverAddress
  | serverPort
  | frame
  deriving DecidableEq, Repr

/-- The name of a field in messages. -/
def Field.name : Field → String
  | .varint => "varint"
  | .serverAddress => "server address"
  | .serverPort => "server port"
  | .frame => "frame"

/-- The cause for which bytes are **refused** as a varint or a handshake. -/
inductive Refusal where
  /-- Five bytes all announce a further one. -/
  | varintTooLong
  /-- The bytes end inside a field. -/
  | truncated (reading : Field)
  /-- The frame announces a length that no handshake has. -/
  | frameLength (length : Int32)
  /-- The packet is of another kind. -/
  | unexpectedPacketId (id : Int32)
  /-- The address announces a negative length. -/
  | stringLength (length : Int32)
  /-- The address is not UTF-8. -/
  | invalidUtf8
  /-- The stream ended where the next byte of the frame's length was awaited. -/
  | endOfStream
  deriving DecidableEq, Repr

/-- The hexadecimal digits of a number, at least two of them. -/
def hexDigits (n : Nat) : List Char :=
  let digits := Nat.toDigits 16 n
  if digits.length < 2 then '0' :: digits else digits

/-- A signed word in hexadecimal, through its two's complement. -/
def hexWord (v : Int32) : String :=
  "0x" ++ String.ofList (hexDigits v.toUInt32.toNat)

/-- The message of a refusal. -/
def Refusal.message : Refusal → String
  | .varintTooLong => "varint longer than 5 bytes"
  | .truncated field => "unexpected end of data while reading " ++ field.name
  | .frameLength n => s!"handshake frame length {n.toInt} outside [1, 255]"
  | .unexpectedPacketId n => "unexpected packet id " ++ hexWord n
  | .stringLength n => s!"invalid string length {n.toInt}"
  | .invalidUtf8 => "server address is not valid UTF-8"
  | .endOfStream => "read failed: early eof"

end GameGateway.Wire
