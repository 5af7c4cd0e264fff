import GameGateway.Text.Blank

/-!
# The protocols of a port

A port forwards raw TCP, raw UDP, HTTP, or the game's own protocol. The last two tell from what a
client sends which host it wants, and so share one port among many backends.
-/

namespace GameGateway

/-- What a socket carries. -/
inductive Transport where
  | tcp
  | udp
  deriving DecidableEq, Repr

/-- The **protocol** that a port forwards. -/
inductive Protocol where
  | tcp
  | udp
  | http
  | minecraft
  deriving DecidableEq, Repr

namespace Protocol

/-- The name of a protocol. -/
def name : Protocol → String
  | .tcp => "tcp"
  | .udp => "udp"
  | .http => "http"
  | .minecraft => "minecraft"

instance : ToString Protocol := ⟨name⟩

/-- All protocols, in order. -/
def all : List Protocol := [.tcp, .udp, .http, .minecraft]

/-- Whether clients of the protocol name the **virtual host** that they want. -/
def isVirtualHosted : Protocol → Bool
  | .http | .minecraft => true
  | .tcp | .udp => false

/-- What carries the protocol. -/
def transport : Protocol → Transport
  | .udp => .udp
  | .tcp | .http | .minecraft => .tcp

/-- The protocol that a tag names, in any case and between any blanks. -/
def ofTag? (tag : String) : Option Protocol :=
  match lowerAscii (trimBlank tag) with
  | "tcp" => some .tcp
  | "udp" => some .udp
  | "http" | "ws" | "websocket" => some .http
  | "minecraft" | "mc" => some .minecraft
  | _ => none

end Protocol

/-- How long a port waits for its peers, in milliseconds. -/
structure Timeouts where
  /-- For a backend to take a connection. -/
  connect : Nat := 5000
  /-- For a client's handshake. -/
  handshakeRead : Nat := 10000
  /-- For the head of a client's first request. -/
  headerRead : Nat := 10000
  /-- For the next datagram of a session. -/
  sessionIdle : Nat := 300000
  /-- Between two sweeps of idle sessions. -/
  sweepInterval : Nat := 30000
  deriving DecidableEq, Repr

end GameGateway
